import OoBot.Lib.Files
import OoBot.Security.CoreGovernor

/-!
# `src/config.rs` and `config/oo-bot.yaml`

The startup configuration, its validation, and the canonical values that are embedded in the binary.
-/

namespace OoBot

/-- `StartupConfigError::Validate`. -/
structure ValidateError where
  msg : Text
  deriving DecidableEq

/-- `DetectorConfig`. -/
structure DetectorConfig where
  backend : DetectorBackendKind
  targetReadings : List Text
  literalSequencePatterns : List Text
  specialPhrases : List Text

/-- `DetectorConfig::as_policy`. -/
def DetectorConfig.asPolicy (self : DetectorConfig) : DetectorPolicy :=
  ⟨self.targetReadings, self.literalSequencePatterns, self.specialPhrases⟩

/-- `BotPolicyConfig`. -/
structure BotPolicyConfig where
  stampText : Text
  sendTemplate : Text
  reaction : ReactionConfig
  maxCountCap : ℕ
  maxSendChars : ℕ
  actionPolicy : ActionPolicy

/-- `BotPolicyConfig::as_bot_config`. -/
def BotPolicyConfig.asBotConfig (self : BotPolicyConfig) (detector : DetectorConfig) : BotConfig where
  specialPhrase := detector.specialPhrases.head?.getD []
  stampText := self.stampText
  reaction := self.reaction
  maxCountCap := self.maxCountCap
  maxSendChars := self.maxSendChars
  sendTemplate := self.sendTemplate
  actionPolicy := self.actionPolicy

/-- `AuditConfig`. -/
structure AuditConfig where
  sqlitePath : Files.Path
  exportMaxRows : ℕ
  queryMaxRows : ℕ
  busyTimeoutMs : ℕ

/-- `ConfigSignatureConfig`. -/
structure ConfigSignatureConfig where
  detachedHmacSha256Path : Files.Path
  hmacKeyEnv : Text

/-- `IntegrityConfig`. -/
structure IntegrityConfig where
  configSignature : Option ConfigSignatureConfig
  pseudoIdHmacKeyEnv : Option Text

/-- `DependencySecurityCheckMode`. -/
inductive DependencySecurityCheckMode
  | disabled
  | offlineSnapshot
  deriving DecidableEq

/-- `DiagnosticsConfig`. -/
structure DiagnosticsConfig where
  localSelfCheckOnStartup : Bool
  verifyHardeningArtifacts : Bool
  verifyGeneratedArtifacts : Bool
  auditVerifyMaxRows : ℕ
  securitySnapshotPath : Files.Path
  dependencySecurityCheckMode : DependencySecurityCheckMode

/-- `StartupConfig`. -/
structure StartupConfig (F : Type) where
  detector : DetectorConfig
  bot : BotPolicyConfig
  runtime : RuntimeProtectionConfig F
  audit : AuditConfig
  diagnostics : DiagnosticsConfig
  integrity : IntegrityConfig

/-! ### Validation -/

/-- `is_allowed_placeholder`. -/
def isAllowedPlaceholder (value : Text) : Bool :=
  ["count".toList, "stamp".toList, "matched_backend".toList, "matched_reading".toList,
    "action_kind".toList].contains value

/-- The loop of `validate_template`; every round but the last consumes the template. -/
def validateTemplateFrom : ℕ → Text → Except ValidateError Unit
  | 0, _ => .ok ()
  | n + 1, rest =>
      match Scan.findSub ['$', '{'] rest with
      | none => .ok ()
      | some start =>
          let afterOpen := rest.drop (start + 2)
          match Scan.findSub ['}'] afterOpen with
          | none => .error ⟨"template placeholder is not closed".toList⟩
          | some endRel =>
              let key := afterOpen.take endRel
              if isAllowedPlaceholder key then validateTemplateFrom n (afterOpen.drop (endRel + 1))
              else .error ⟨"template contains undefined placeholder: ".toList ++ key⟩

/-- `validate_template`. -/
def validateTemplate (template : Text) : Except ValidateError Unit :=
  validateTemplateFrom template.length template

/-- A check that fails with a message. -/
def rejectIf (b : Bool) (msg : String) : Except ValidateError Unit :=
  if b then .error ⟨msg.toList⟩ else .ok ()

/-- `MAX_DETECTOR_ITEMS`. -/
def maxDetectorItems : ℕ := 64
/-- `MAX_SPECIAL_PHRASES`. -/
def maxSpecialPhrases : ℕ := 64
/-- `MAX_PATTERN_LEN`. -/
def maxPatternLen : ℕ := 32
/-- `MAX_READING_LEN`. -/
def maxReadingLen : ℕ := 32
/-- `MAX_TEMPLATE_LEN`. -/
def maxTemplateLen : ℕ := 512
/-- `MAX_STAMP_LEN`. -/
def maxStampLen : ℕ := 128
/-- `MAX_EMOJI_NAME_LEN`. -/
def maxEmojiNameLen : ℕ := 64

/-- The check of `validate_config` on the backend. -/
def validateBackend (d : DetectorConfig) : Except ValidateError Unit :=
  match d.backend with
  | .morphologicalReading =>
      rejectIf d.targetReadings.isEmpty
        "target_readings must not be empty for morphological_reading backend"
  | .fallback =>
      rejectIf true "detector.backend=fallback is internal-only and cannot be configured"

/-- The checks of `validate_config` on the detector. -/
def validateDetector (d : DetectorConfig) : Except ValidateError Unit := do
  rejectIf (d.targetReadings.length > maxDetectorItems) "target_readings exceeds max entries"
  rejectIf (d.literalSequencePatterns.length > maxDetectorItems)
    "literal_sequence_patterns exceeds max entries"
  rejectIf (d.specialPhrases.length > maxSpecialPhrases) "special_phrases exceeds max entries"
  rejectIf d.specialPhrases.isEmpty "special_phrases must not be empty"
  validateBackend d
  rejectIf (d.targetReadings.any fun entry => utf8Len entry > maxReadingLen)
    "target_readings entry too long"
  rejectIf (d.literalSequencePatterns.any fun entry => utf8Len entry > maxPatternLen)
    "literal_sequence_patterns entry too long"

/-- The checks of `validate_config` on the bot. -/
def validateBot (b : BotPolicyConfig) : Except ValidateError Unit := do
  rejectIf (b.stampText.isEmpty || utf8Len b.stampText > maxStampLen)
    "stamp_text length is invalid"
  rejectIf (b.sendTemplate.isEmpty || utf8Len b.sendTemplate > maxTemplateLen)
    "send_template length is invalid"
  rejectIf (b.reaction.emojiName.isEmpty || utf8Len b.reaction.emojiName > maxEmojiNameLen)
    "reaction.emoji_name length is invalid"
  rejectIf (b.reaction.emojiId == 0) "reaction.emoji_id must be non-zero"
  rejectIf (b.maxCountCap == 0 || b.maxCountCap > 4096) "max_count_cap must be 1..=4096"
  rejectIf (b.maxSendChars == 0 || b.maxSendChars > 8000) "max_send_chars must be 1..=8000"

/-- `validate_config`. -/
def validateConfig {F : Type} (cfg : StartupConfig F) : Except ValidateError Unit := do
  validateDetector cfg.detector
  validateBot cfg.bot
  rejectIf (cfg.audit.exportMaxRows == 0 || cfg.audit.exportMaxRows > 1000000)
    "audit.export_max_rows is invalid"
  rejectIf (cfg.audit.queryMaxRows == 0 || cfg.audit.queryMaxRows > 1000000)
    "audit.query_max_rows is invalid"
  rejectIf (cfg.diagnostics.auditVerifyMaxRows == 0 || cfg.diagnostics.auditVerifyMaxRows > 100000)
    "diagnostics.audit_verify_max_rows is invalid"
  validateTemplate cfg.bot.sendTemplate

/-! ### What an accepted configuration satisfies -/

theorem rejectIf_ok {b : Bool} {msg : String} : rejectIf b msg = .ok () ↔ b = false := by
  cases b <;> simp [rejectIf]

theorem bind_ok {m k : Except ValidateError Unit} :
    (m >>= fun _ => k) = .ok () ↔ m = .ok () ∧ k = .ok () := by
  cases m <;> simp [bind, Except.bind]

section Accepted

variable {F : Type} {cfg : StartupConfig F}

/-- Literal patterns of an accepted configuration are short. -/
theorem pattern_le_of_validate (h : validateConfig cfg = .ok ()) {p : Text}
    (hp : p ∈ cfg.detector.literalSequencePatterns) : utf8Len p ≤ maxPatternLen := by
  simp only [validateConfig, bind_ok] at h
  have hd := h.1
  simp only [validateDetector, bind_ok, rejectIf_ok] at hd
  have hany := hd.2.2.2.2.2.2
  simp only [List.any_eq_false, decide_eq_true_eq, Nat.not_lt, gt_iff_lt] at hany
  exact hany p hp

/-- The stamp of an accepted configuration is not empty. -/
theorem stampText_of_validate (h : validateConfig cfg = .ok ()) : cfg.bot.stampText ≠ [] := by
  simp only [validateConfig, bind_ok] at h
  have hb := h.2.1
  simp only [validateBot, bind_ok, rejectIf_ok, Bool.or_eq_false_iff] at hb
  have hempty := hb.1.1
  intro hnil
  rw [hnil] at hempty
  cases hempty

/-- The limit for the length of an accepted configuration. -/
theorem maxSendChars_of_validate (h : validateConfig cfg = .ok ()) : cfg.bot.maxSendChars ≤ 8000 := by
  simp only [validateConfig, bind_ok] at h
  have hb := h.2.1
  simp only [validateBot, bind_ok, rejectIf_ok, Bool.or_eq_false_iff] at hb
  obtain ⟨-, -, -, -, -, -, hlimit⟩ := hb
  exact Nat.not_lt.1 (of_decide_eq_false hlimit)

/-- The reaction of an accepted configuration is valid. -/
theorem reaction_of_validate (h : validateConfig cfg = .ok ()) :
    cfg.bot.reaction.emojiId ≠ 0 ∧ cfg.bot.reaction.emojiName ≠ [] := by
  simp only [validateConfig, bind_ok] at h
  have hb := h.2.1
  simp only [validateBot, bind_ok, rejectIf_ok, Bool.or_eq_false_iff] at hb
  obtain ⟨-, -, hname, hid, -⟩ := hb
  refine ⟨by simpa using hid, ?_⟩
  intro hnil
  rw [hnil] at hname
  simp at hname

end Accepted

/-! ### Canonical values -/

/-- `canonical_detector_config`. -/
def canonicalDetectorConfig : DetectorConfig where
  backend := .morphologicalReading
  targetReadings := ["おお".toList, "オオ".toList, "oo".toList]
  literalSequencePatterns := ["おお".toList, "オオ".toList, "oo".toList]
  specialPhrases := ["これはおお".toList]

/-- `canonical_detector_policy`. -/
def canonicalDetectorPolicy : DetectorPolicy := canonicalDetectorConfig.asPolicy

/-- The canonical detector, over a tokenizer that finds one token without a reading. -/
def canonicalDetector : MorphologicalReadingDetector :=
  ⟨id, canonicalDetectorPolicy, fun content => .tokens [⟨content, none, none⟩]⟩

/-- `canonical_bot_policy_config`. -/
def canonicalBotPolicyConfig : BotPolicyConfig where
  stampText := "<:Omilfy:1489695886773587978>".toList
  sendTemplate := "${stamp}".toList
  reaction := ⟨1489695886773587978, "Omilfy".toList, false⟩
  maxCountCap := 48
  maxSendChars := 1900
  actionPolicy := .reactOrSend

/-- `canonical_bot_config`. -/
def canonicalBotConfig : BotConfig := canonicalBotPolicyConfig.asBotConfig canonicalDetectorConfig

/-- `default_runtime_protection_config`. -/
def defaultRuntimeProtectionConfig (F : Type) [F64 F] : RuntimeProtectionConfig F where
  duplicateTtlMs := 180000
  duplicateCacheCap := 8192
  perUserCooldownMs := 900
  perChannelCooldownMs := 400
  perGuildCooldownMs := 250
  globalCooldownMs := 100
  globalRatePerSec := F64.ofNat 20
  globalRateBurst := 30
  maxActionsPerMessage := 1
  maxSendChars := 1900
  longMessageSoftChars := 2000
  longMessageHardChars := 8000
  suspiciousRepetitionThreshold := 256
  breakerWindowMs := 60000
  breakerThreshold := 64
  breakerOpenMs := 120000
  sandboxFailureWindowMs := 30000
  sandboxFailureThreshold := 10
  allowGuildIds := []
  denyGuildIds := []
  allowChannelIds := []
  denyChannelIds := []
  modeOverride := none
  emergencyKillSwitch := false
  sessionBudgetLowWatermark := 5

/-- `canonical_audit_config`. -/
def canonicalAuditConfig : AuditConfig where
  sqlitePath := .names ["state".toList, "audit".toList, "events.sqlite3".toList]
  exportMaxRows := 50000
  queryMaxRows := 10000
  busyTimeoutMs := 3000

/-- `canonical_diagnostics_config`. -/
def canonicalDiagnosticsConfig : DiagnosticsConfig where
  localSelfCheckOnStartup := true
  verifyHardeningArtifacts := true
  verifyGeneratedArtifacts := true
  auditVerifyMaxRows := 512
  securitySnapshotPath :=
    .names ["state".toList, "security".toList, "offline-security-report.json".toList]
  dependencySecurityCheckMode := .offlineSnapshot

/-- `canonical_integrity_config`. -/
def canonicalIntegrityConfig : IntegrityConfig where
  configSignature := none
  pseudoIdHmacKeyEnv := some "OO_PSEUDO_ID_HMAC_KEY".toList

/-- `canonical_startup_config`. -/
def canonicalStartupConfig (F : Type) [F64 F] : StartupConfig F where
  detector := canonicalDetectorConfig
  bot := canonicalBotPolicyConfig
  runtime := defaultRuntimeProtectionConfig F
  audit := canonicalAuditConfig
  diagnostics := canonicalDiagnosticsConfig
  integrity := canonicalIntegrityConfig

/-- The canonical configuration is accepted. -/
theorem validateConfig_canonical (F : Type) [F64 F] :
    validateConfig (canonicalStartupConfig F) = .ok () := by
  have hd : validateDetector canonicalDetectorConfig = .ok () := by decide
  have hb : validateBot canonicalBotPolicyConfig = .ok () := by decide
  have ht : validateTemplate canonicalBotPolicyConfig.sendTemplate = .ok () := by decide
  simp only [validateConfig, bind_ok, rejectIf_ok]
  exact ⟨hd, hb, rfl, rfl, rfl, ht⟩

end OoBot
