import OoBot.Security.Refinement
import OoBot.Security.SendLimit

/-!
# Whole stamps

The pure analyzer repeats the stamp as often as the caps and the length of a message allow.  The
governed path repeats it as often as the caps and a byte of the wire format allow, and then cuts the text
at its length.

`whole_stamps_iff` says when both come to the same text.
-/

namespace OoBot

open Guest (nat32 flag guestProposal)

/-! ### What a call that completes answers -/

/-- The sentinel turns a long message away. -/
theorem WasmtimeSandboxAnalyzer.propose_of_long {a : WasmtimeSandboxAnalyzer} {req : AnalyzerRequest}
    {p : ActionProposal} (ha : a.Ready) (hlong : 32768 < utf8Len req.content)
    (h : a.propose req = .ok p) : p = .suspiciousInput := by
  by_cases hmem : utf8Len req.content ≤ guestMemoryBytes
  · have hlt : utf8Len req.content < 2 ^ 31 := hmem.trans_lt (by decide)
    have call := @Guest.costs_analyze_sentinel (guestMemory (utf8 req.content)) 0 (utf8 req.content)
      (nat32 (min req.kanjiCount i32Max)) (flag req.specialPhraseHit) hlong hlt
    rw [ha.propose_eq_call hmem] at h
    unfold callAnalyze at h
    simp only at h
    by_cases hfuel : 6 ≤ a.cfg.fuelLimit
    · rw [call.run hfuel] at h
      have hdecode : ActionProposal.decodeWire ActionProposal.suspiciousInput.encodeWire =
          .ok .suspiciousInput := by decide
      simp only [hdecode] at h
      exact (Except.ok.inj h).symm
    · rw [call.outOfFuel (Nat.lt_of_not_le hfuel)] at h
      cases h
  · unfold propose at h
    have hu : (utf8 req.content).length = utf8Len req.content := rfl
    rw [hu] at h
    split_ifs at h with h₁ h₂ h₃ h₄
    exact absurd (Nat.le_of_not_gt h₄) hmem

/-- A call on another message that completes answers with the guest's proposal. -/
theorem WasmtimeSandboxAnalyzer.propose_of_short {a : WasmtimeSandboxAnalyzer} {req : AnalyzerRequest}
    {p : ActionProposal} (ha : a.Ready) (hshort : utf8Len req.content ≤ 32768)
    (h : a.propose req = .ok p) : p = guestProposal (actedTotal req) req.specialPhraseHit := by
  rw [ha.propose_eq hshort] at h
  split_ifs at h
  exact (Except.ok.inj h).symm

/-! ### The configurations -/

section Config

variable {F : Type}

/-- An accepted configuration with the default patterns whose answer is the stamp alone, within one
limit for its length. -/
structure StampConfig (cfg : StartupConfig F) : Prop where
  accepted : validateConfig cfg = .ok ()
  patterns : cfg.detector.literalSequencePatterns = canonicalDetectorConfig.literalSequencePatterns
  template : cfg.bot.sendTemplate = stampTemplate
  clean : sanitizeTemplateValue cfg.bot.stampText = cfg.bot.stampText
  short : cfg.bot.stampText.length ≤ cfg.bot.maxSendChars
  cap : 2 ≤ cfg.bot.maxCountCap
  policy : cfg.bot.actionPolicy = .reactOrSend
  limits : cfg.runtime.maxSendChars = cfg.bot.maxSendChars

/-- How many stamps fit into a message. -/
def BotPolicyConfig.room (bot : BotPolicyConfig) : ℕ := stampRoom bot.stampText bot.maxSendChars

/-- The number of stamps that is specified for a count. -/
def BotPolicyConfig.stampCount (bot : BotPolicyConfig) (total : ℕ) : ℕ :=
  min (min total bot.maxCountCap) bot.room

variable {cfg : StartupConfig F}

theorem StampConfig.room_eq (h : StampConfig cfg) :
    cfg.bot.room = (cfg.bot.maxSendChars + 1) / (cfg.bot.stampText.length + 1) := by
  have hne : cfg.bot.stampText.isEmpty = false := by
    simpa using stampText_of_validate h.accepted
  rw [BotPolicyConfig.room, stampRoom, hne, if_neg Bool.false_ne_true]

theorem StampConfig.room_pos (h : StampConfig cfg) : 0 < cfg.bot.room := by
  rw [h.room_eq]
  exact Nat.div_pos (Nat.succ_le_succ h.short) (Nat.succ_pos _)

/-- The pure analyzer sends the specified number of stamps. -/
theorem StampConfig.analyze_eq (h : StampConfig cfg) {detector : MessageDetector} {content : Text}
    (htotal : 2 ≤ (detector content).totalCount)
    (hspecial : (detector content).specialPhraseHit = false)
    (hphrase : contains content (cfg.bot.asBotConfig cfg.detector).specialPhrase = false) :
    analyzeMessageWithDetector content false (cfg.bot.asBotConfig cfg.detector) detector =
      some (.sendMessage (joinRepeated cfg.bot.stampText
        (cfg.bot.stampCount (detector content).totalCount))) := by
  have hcap := h.cap
  have hroom := h.room_pos
  have hmax : max (cfg.bot.asBotConfig cfg.detector).maxCountCap 1 = cfg.bot.maxCountCap :=
    Nat.max_eq_left (by show 1 ≤ cfg.bot.maxCountCap; omega)
  have hlimit : cfg.bot.maxSendChars ≤ 8000 := maxSendChars_of_validate h.accepted
  have hfit : maxRepeatsForLen (cfg.bot.asBotConfig cfg.detector).stampText
      (cfg.bot.asBotConfig cfg.detector).maxSendChars = some cfg.bot.room :=
    maxRepeatsForLen_of_lt _ (hlimit.trans_lt (by decide))
  have hclamp : max cfg.bot.room 1 = cfg.bot.room := Nat.max_eq_left hroom
  have hpos : 0 < cfg.bot.stampCount (detector content).totalCount := by
    unfold BotPolicyConfig.stampCount
    omega
  have hrender := @renderSendTemplate_stamps (cfg.bot.asBotConfig cfg.detector) h.template h.clean
    (stampText_of_validate h.accepted) _ hpos (Nat.min_le_right _ _) (detector content)
  unfold analyzeMessageWithDetector
  simp only [hspecial, hphrase, Bool.or_self, Bool.false_eq_true, if_false, hmax, hfit, hclamp]
  rw [if_neg (by omega), if_neg (by omega)]
  unfold BotPolicyConfig.stampCount at hrender ⊢
  rw [hrender]
  unfold enforceActionPolicy
  have hpolicy : (cfg.bot.asBotConfig cfg.detector).actionPolicy = .reactOrSend := h.policy
  rw [hpolicy]
  rfl

/-! ### The governed path -/

/-- What decides whether whole stamps are sent. -/
structure WholeStamps (bot : BotPolicyConfig) (content : Text) (report : DetectionReport) : Prop where
  visible : isBlank bot.stampText = false
  short : utf8Len content ≤ 32768
  counted : countOoSequences content + min report.kanjiHits i32Max < 2 ^ 31
  cut : (min (min report.totalCount bot.maxCountCap) 255 ≤ bot.room ∧
      (min report.totalCount bot.maxCountCap ≤ 255 ∨ bot.room = 255)) ∨
    (bot.room < min (min report.totalCount bot.maxCountCap) 255 ∧
      bot.stampText.length + 1 ∣ bot.maxSendChars + 1)

/-- Past every limiter a count of at least two becomes copies of the stamp, cut at the length. -/
theorem StampConfig.release_eq (h : StampConfig cfg) {count : UInt8} {total : ℕ} (backend : Text)
    (reading : Option Text) (htotal : 2 ≤ total) (hcount : count.toNat = min total 255) :
    release .none .normal (cfg.bot.asBotConfig cfg.detector) cfg.runtime.maxSendChars
        (proposalToAction (.sendStamped count) (cfg.bot.asBotConfig cfg.detector)
          (min total (max (cfg.bot.asBotConfig cfg.detector).maxCountCap 1)) backend reading) =
      if isBlank cfg.bot.stampText then .noop
      else .sendMessage ((joinRepeated cfg.bot.stampText
        (min (min total cfg.bot.maxCountCap) 255)).take cfg.bot.maxSendChars) := by
  have hcap := h.cap
  have hrepeats : min count.toNat
      (max (min total (max (cfg.bot.asBotConfig cfg.detector).maxCountCap 1)) 1) =
      min (min total cfg.bot.maxCountCap) 255 := by
    have hbot : (cfg.bot.asBotConfig cfg.detector).maxCountCap = cfg.bot.maxCountCap := rfl
    rw [hcount, hbot]
    omega
  have hmany : ¬ min (min total cfg.bot.maxCountCap) 255 ≤ 1 := by omega
  have hrender : renderTemplate (cfg.bot.asBotConfig cfg.detector).sendTemplate
      (min (min total cfg.bot.maxCountCap) 255) (cfg.bot.asBotConfig cfg.detector).stampText backend
      (reading.getD []) "send_message".toList =
      some (joinRepeated cfg.bot.stampText (min (min total cfg.bot.maxCountCap) 255)) := by
    have htemplate : (cfg.bot.asBotConfig cfg.detector).sendTemplate = stampTemplate := h.template
    rw [htemplate]
    exact renderTemplate_stamps h.clean _ _ _ _
  have hsend : maySend .normal .none (cfg.bot.asBotConfig cfg.detector) = true := by
    have hpolicy : (cfg.bot.asBotConfig cfg.detector).actionPolicy = .reactOrSend := h.policy
    unfold maySend
    rw [hpolicy]
    rfl
  have hpos : 0 < min (min total cfg.bot.maxCountCap) 255 := by omega
  have hblank := isBlank_joinRepeated cfg.bot.stampText hpos
  have hcut := isBlank_take_joinRepeated cfg.bot.stampText hpos h.short
  unfold proposalToAction
  simp only [hrepeats, if_neg hmany, hrender, h.limits, hblank]
  by_cases hshown : isBlank cfg.bot.stampText = true
  · simp only [hshown, Bool.not_true, Bool.false_eq_true, if_false, if_true]
    exact release_noop _ _ _ _
  · simp only [hshown, Bool.not_false, if_true]
    rw [release_sendMessage, if_pos hsend, hcut]
    simp only [hshown, Bool.false_eq_true, if_false]

/-- These are the specified copies exactly where the stamp is visible and no copy is lost or cut. -/
theorem StampConfig.release_eq_iff (h : StampConfig cfg) {count : UInt8} {total : ℕ} (backend : Text)
    (reading : Option Text) (htotal : 2 ≤ total) (hcount : count.toNat = min total 255) :
    release .none .normal (cfg.bot.asBotConfig cfg.detector) cfg.runtime.maxSendChars
        (proposalToAction (.sendStamped count) (cfg.bot.asBotConfig cfg.detector)
          (min total (max (cfg.bot.asBotConfig cfg.detector).maxCountCap 1)) backend reading) =
        .sendMessage (joinRepeated cfg.bot.stampText (cfg.bot.stampCount total)) ↔
      isBlank cfg.bot.stampText = false ∧
        ((min (min total cfg.bot.maxCountCap) 255 ≤ cfg.bot.room ∧
            (min total cfg.bot.maxCountCap ≤ 255 ∨ cfg.bot.room = 255)) ∨
          (cfg.bot.room < min (min total cfg.bot.maxCountCap) 255 ∧
            cfg.bot.stampText.length + 1 ∣ cfg.bot.maxSendChars + 1)) := by
  have hcap := h.cap
  have hroom := h.room_pos
  have hpos : 0 < cfg.bot.stampCount total := by
    unfold BotPolicyConfig.stampCount
    omega
  have hcopies := @take_joinRepeated_eq_iff cfg.bot.stampText
    (min (min total cfg.bot.maxCountCap) 255) _ cfg.bot.maxSendChars (by omega) hpos
  rw [h.release_eq backend reading htotal hcount,
    ← whole_copies_iff (Nat.succ_pos _) h.room_eq]
  unfold BotPolicyConfig.stampCount at hcopies ⊢
  rw [← hcopies]
  cases isBlank cfg.bot.stampText <;> simp

end Config

/-! ### What the guest is given -/

section Guest

variable {d : MorphologicalReadingDetector} {content : Text}

/-- With the default patterns the guest counts what the detector counts, up to the byte. -/
theorem guestProposal_of_counted
    (hpatterns : d.policy.literalSequencePatterns = canonicalDetectorConfig.literalSequencePatterns)
    (htotal : 2 ≤ (d.detect content).totalCount)
    (hcounted : countOoSequences content + min (d.detect content).kanjiHits i32Max < 2 ^ 31) :
    ∃ count : UInt8, guestProposal (actedTotal (TrustedCore.request content (d.detect content)))
        false = .sendStamped count ∧ count.toNat = min (d.detect content).totalCount 255 := by
  have hseq : (d.detect content).sequenceHits = countOoSequences content := by
    rw [detect_sequenceHits, hpatterns]
    exact countLiteralPatterns_ooPatterns content
  have hsum : (d.detect content).totalCount =
      countOoSequences content + (d.detect content).kanjiHits := by
    rw [detect_totalCount, hseq]
  have hacted : actedTotal (TrustedCore.request content (d.detect content)) =
      countOoSequences content + min (d.detect content).kanjiHits i32Max :=
    Guest.readTotal_of_lt hcounted
  have hmax : i32Max = 2147483647 := rfl
  refine ⟨UInt8.ofNat (min (actedTotal (TrustedCore.request content (d.detect content))) 255),
    ?_, ?_⟩
  · unfold guestProposal
    rw [if_neg Bool.false_ne_true, if_neg (by omega), if_neg (by omega)]
  · rw [UInt8.toNat_ofNat', Nat.mod_eq_of_lt (by omega), hacted, hsum]
    omega

/-- A count that is no `i32` is read as nothing to count. -/
theorem guestProposal_of_not_counted
    (h : ¬ countOoSequences content + min (d.detect content).kanjiHits i32Max < 2 ^ 31) :
    guestProposal (actedTotal (TrustedCore.request content (d.detect content))) false = .noop := by
  have hacted : actedTotal (TrustedCore.request content (d.detect content)) = 0 := if_neg h
  rw [hacted]
  rfl

end Guest

/-! ### The message -/

namespace TrustedCore

variable {F : Type} [F64 F]

/-- The parts of a core that are fixed by the shipped guest, a configuration and its detector. -/
structure BuiltFrom (core : TrustedCore F Unit) (a : WasmtimeSandboxAnalyzer) (cfg : StartupConfig F)
    (d : MorphologicalReadingDetector) : Prop where
  analyzer : core.analyzer = a.toAnalyzer
  detector : core.detector = d.detect
  botConfig : core.botConfig = cfg.bot.asBotConfig cfg.detector
  maxSendChars : core.runtime.maxSendChars = cfg.runtime.maxSendChars

/-- No operation changes what a core was built with. -/
theorem builtFrom_reached (nfkc : Text → Text) (a : WasmtimeSandboxAnalyzer) (cfg : StartupConfig F)
    (d : MorphologicalReadingDetector) (start : Instant) (ops : List Op) :
    (reached nfkc a.toAnalyzer () d.detect (cfg.bot.asBotConfig cfg.detector) cfg.runtime start
      ops).BuiltFrom a cfg d := by
  have hfix := fixed_reached nfkc a.toAnalyzer () d.detect (cfg.bot.asBotConfig cfg.detector)
    cfg.runtime start ops
  exact ⟨congrArg Fixed.analyzer hfix, congrArg Fixed.detector hfix, congrArg Fixed.botConfig hfix,
    congrArg Fixed.maxSendChars hfix⟩

/-- Past every guard and every limiter, without suspicion in normal mode, the guest's answer is
compiled and released. -/
theorem BuiltFrom.action_eq {core : TrustedCore F Unit} {a : WasmtimeSandboxAnalyzer}
    {cfg : StartupConfig F} {d : MorphologicalReadingDetector} (h : core.BuiltFrom a cfg d)
    {nfkc : Text → Text} {ctx : MessageContext} {content : Text} {now : Instant}
    {order : IterOrder UInt64 Instant} {p : ActionProposal} (hadm : core.Admitted ctx now)
    (hpass : core.Passes ctx now) (hmode : core.effectiveMode now = .normal)
    (hclass : classifySuspiciousInput nfkc content core.suspiciousCfg = .none)
    (hp : a.propose (request content (d.detect content)) = .ok p) :
    (core.decideMessage nfkc ctx content now order).1.action =
      release .none .normal (cfg.bot.asBotConfig cfg.detector) cfg.runtime.maxSendChars
        (proposalToAction p (cfg.bot.asBotConfig cfg.detector)
          (min (d.detect content).totalCount (max (cfg.bot.asBotConfig cfg.detector).maxCountCap 1))
          (d.detect content).matchedBackend (d.detect content).matchedReadings.head?) := by
  have hproposal : core.proposalFor nfkc content = p := by
    unfold proposalFor
    rw [hclass, if_neg (by decide), h.analyzer, h.detector]
    simp only [WasmtimeSandboxAnalyzer.toAnalyzer, hp]
  rw [decideMessage_eq_response hadm hpass, response_eq_release, proposed, hproposal, hclass, hmode,
    h.botConfig, h.maxSendChars, h.detector]

/-- **When whole stamps are sent.**  Take an accepted configuration whose template is the stamp, with the
default patterns and one limit for the length, the core built from it with the shipped guest, in any state
it reaches, and a message with at least two hits and no special phrase, which is admitted in normal mode
without suspicion, past every limiter, and answered by the guest.  The pure analyzer sends the specified
number of stamps; the core sends the same text exactly where the stamp shows something, the message is
not too long for the guest, its count is an `i32`, and either the byte and the length cut nothing off or
the length cuts behind a stamp. -/
theorem whole_stamps_iff {texts : WasmtimeTexts} {sandbox : SandboxConfig}
    {a : WasmtimeSandboxAnalyzer} (ha : WasmtimeSandboxAnalyzer.new texts sandbox = .ok a)
    {cfg : StartupConfig F} (hcfg : StampConfig cfg) (d : MorphologicalReadingDetector)
    (hpolicy : d.policy = cfg.detector.asPolicy) (nfkc : Text → Text) (start : Instant)
    (ops : List Op) (core : TrustedCore F Unit)
    (hcore : core = reached nfkc a.toAnalyzer () d.detect (cfg.bot.asBotConfig cfg.detector)
      cfg.runtime start ops)
    (ctx : MessageContext) (content : Text) (now : Instant) (order : IterOrder UInt64 Instant)
    (hadm : core.Admitted ctx now) (hpass : core.Passes ctx now)
    (hmode : core.effectiveMode now = .normal)
    (hclass : classifySuspiciousInput nfkc content core.suspiciousCfg = .none)
    (hdone : ∃ p, a.propose (request content (d.detect content)) = .ok p)
    (htotal : 2 ≤ (d.detect content).totalCount)
    (hspecial : (d.detect content).specialPhraseHit = false) :
    (contains content (cfg.bot.asBotConfig cfg.detector).specialPhrase = false →
        analyzeMessageWithDetector content ctx.authorIsBot (cfg.bot.asBotConfig cfg.detector)
            d.detect =
          some (.sendMessage (joinRepeated cfg.bot.stampText
            (cfg.bot.stampCount (d.detect content).totalCount)))) ∧
      ((core.decideMessage nfkc ctx content now order).1.action =
          .sendMessage (joinRepeated cfg.bot.stampText
            (cfg.bot.stampCount (d.detect content).totalCount)) ↔
        WholeStamps cfg.bot content (d.detect content)) := by
  obtain ⟨hready, -⟩ := WasmtimeSandboxAnalyzer.ready_of_new ha
  obtain ⟨p, hp⟩ := hdone
  have hbuilt := builtFrom_reached nfkc a cfg d start ops
  rw [← hcore] at hbuilt
  refine ⟨fun hphrase => ?_, ?_⟩
  · rw [hadm.author]
    exact hcfg.analyze_eq htotal hspecial hphrase
  · rw [hbuilt.action_eq hadm hpass hmode hclass hp]
    by_cases hshort : utf8Len content ≤ 32768
    · have hpropose := WasmtimeSandboxAnalyzer.propose_of_short hready hshort hp
      have hflag : (request content (d.detect content)).specialPhraseHit = false := hspecial
      rw [hflag] at hpropose
      by_cases hcounted : countOoSequences content + min (d.detect content).kanjiHits i32Max < 2 ^ 31
      · obtain ⟨count, hsend, hcount⟩ := guestProposal_of_counted
          (by rw [hpolicy]; exact hcfg.patterns) htotal hcounted
        rw [hpropose, hsend, hcfg.release_eq_iff _ _ htotal hcount]
        constructor
        · rintro ⟨hvisible, hcut⟩
          exact ⟨hvisible, hshort, hcounted, hcut⟩
        · intro hwhole
          exact ⟨hwhole.visible, hwhole.cut⟩
      · rw [hpropose, guestProposal_of_not_counted hcounted]
        exact iff_of_false (by simp [proposalToAction]) fun hwhole => hcounted hwhole.counted
    · have hpropose := WasmtimeSandboxAnalyzer.propose_of_long hready (Nat.lt_of_not_le hshort) hp
      rw [hpropose]
      exact iff_of_false (by simp [proposalToAction]) fun hwhole => hshort hwhole.short

/-- The shipped guest completes on a short message. -/
theorem propose_oooo : ∃ p, (shippedAnalyzer .unread).propose
    (request "おおおお".toList (canonicalDetector.detect "おおおお".toList)) = .ok p := by
  obtain ⟨hready, -⟩ := WasmtimeSandboxAnalyzer.ready_of_new (new_shippedAnalyzer .unread)
  rw [hready.propose_eq (by decide), if_pos (by decide)]
  exact ⟨_, rfl⟩

/-- The canonical configuration with a limit of forty characters, for the bot and for the runtime
protection. -/
def cutConfig : StartupConfig ℚ :=
  { canonicalStartupConfig ℚ with
    bot := { canonicalBotPolicyConfig with maxSendChars := 40 }
    runtime := { defaultRuntimeProtectionConfig ℚ with maxSendChars := 40 } }

/-- A fresh core of that configuration, with the shipped guest. -/
def cutCore : TrustedCore ℚ Unit :=
  reached id (shippedAnalyzer .unread).toAnalyzer () canonicalDetector.detect
    (cutConfig.bot.asBotConfig cutConfig.detector) cutConfig.runtime 0 []

theorem stampConfig_cutConfig : StampConfig cutConfig :=
  ⟨by decide, rfl, rfl, by decide, by decide, by decide, rfl, rfl⟩

theorem cutCore_admitted : cutCore.Admitted firstMessage 1 := by
  refine ⟨by decide, rfl, rfl, rfl, ?_⟩
  rintro ⟨ts, hts, -⟩
  cases hts

theorem cutCore_passes : cutCore.Passes firstMessage 1 :=
  ⟨rfl, by decide +kernel, by decide, ⟨rfl, rfl, fun g _ => rfl, rfl⟩⟩

/-- One stamp fits and is specified; a stamp and the beginning of a second one are sent. -/
theorem stamps_cut :
    StampConfig cutConfig ∧ cutCore.Admitted firstMessage 1 ∧ cutCore.Passes firstMessage 1 ∧
      cutCore.effectiveMode 1 = .normal ∧
      classifySuspiciousInput id "おおおお".toList cutCore.suspiciousCfg = .none ∧
      (∃ p, (shippedAnalyzer .unread).propose
        (request "おおおお".toList (canonicalDetector.detect "おおおお".toList)) = .ok p) ∧
      (canonicalDetector.detect "おおおお".toList).totalCount = 2 ∧
      (canonicalDetector.detect "おおおお".toList).specialPhraseHit = false ∧
      cutConfig.bot.stampCount 2 = 1 ∧
      (cutCore.decideMessage id firstMessage "おおおお".toList 1 (.listed _ _)).1.action =
        .sendMessage "<:Omilfy:1489695886773587978> <:Omilfy:1".toList ∧
      analyzeMessageWithDetector "おおおお".toList false (cutConfig.bot.asBotConfig cutConfig.detector)
          canonicalDetector.detect =
        some (.sendMessage "<:Omilfy:1489695886773587978>".toList) := by
  obtain ⟨hready, -⟩ := WasmtimeSandboxAnalyzer.ready_of_new (new_shippedAnalyzer .unread)
  have hlen : utf8Len "おおおお".toList ≤ 285 := by decide
  have hprop : cutCore.proposalFor id "おおおお".toList = .sendStamped 2 :=
    (proposalFor_sandbox hready rfl (hlen.trans (by decide)) (by decide)
      (analyzeFuel_le hlen)).trans (by decide)
  refine ⟨stampConfig_cutConfig, cutCore_admitted, cutCore_passes, by decide, by decide, propose_oooo,
    by decide, by decide, by decide, ?_, by decide⟩
  rw [decideMessage_eq_response cutCore_admitted cutCore_passes, response, hprop]
  decide

theorem whole_stamps_iff_cutCore :
    (contains "おおおお".toList (cutConfig.bot.asBotConfig cutConfig.detector).specialPhrase = false →
        analyzeMessageWithDetector "おおおお".toList false
            (cutConfig.bot.asBotConfig cutConfig.detector) canonicalDetector.detect =
          some (.sendMessage (joinRepeated cutConfig.bot.stampText
            (cutConfig.bot.stampCount (canonicalDetector.detect "おおおお".toList).totalCount)))) ∧
      ((cutCore.decideMessage id firstMessage "おおおお".toList 1 (.listed _ _)).1.action =
          .sendMessage (joinRepeated cutConfig.bot.stampText
            (cutConfig.bot.stampCount (canonicalDetector.detect "おおおお".toList).totalCount)) ↔
        WholeStamps cutConfig.bot "おおおお".toList (canonicalDetector.detect "おおおお".toList)) :=
  whole_stamps_iff (new_shippedAnalyzer .unread) stampConfig_cutConfig canonicalDetector rfl id 0 []
    cutCore rfl firstMessage "おおおお".toList 1 (.listed _ _) cutCore_admitted cutCore_passes (by decide)
    (by decide) propose_oooo (by decide) (by decide)

end TrustedCore

end OoBot
