import OoBot.Config
import OoBot.Tui.Labels

/-!
# The setup screen

The pages and fields of the setup screen of `src/operator_tui.rs`, and what its keys do to the draft of
a configuration.

`serde_yaml`, and what `PathBuf` makes of a text and shows of a path, are parameters (`SetupTexts`).
-/

namespace OoBot

/-! ### Pages and fields -/

/-- `SetupPage`. -/
inductive SetupPage
  | detector
  | bot
  | audit
  | diagnostics
  | integrity
  | runtime
  | preview
  deriving DecidableEq

/-- `SetupField`. -/
inductive SetupField
  | detectorBackend
  | targetReadings
  | literalSequencePatterns
  | specialPhrases
  | stampText
  | sendTemplate
  | reactionEmojiId
  | reactionEmojiName
  | reactionAnimated
  | maxCountCap
  | maxSendChars
  | actionPolicy
  | auditSqlitePath
  | auditExportMaxRows
  | auditQueryMaxRows
  | pseudoIdHmacKeyEnv
  | signatureEnabled
  | signaturePath
  | signatureHmacEnv
  | localSelfCheck
  | verifyHardeningArtifacts
  | verifyGeneratedArtifacts
  | dependencySecurityCheckMode
  deriving DecidableEq

/-- `previous_setup_page`. -/
def previousSetupPage : SetupPage → SetupPage
  | .detector => .preview
  | .bot => .detector
  | .audit => .bot
  | .diagnostics => .audit
  | .integrity => .diagnostics
  | .runtime => .integrity
  | .preview => .runtime

/-- `next_setup_page`. -/
def nextSetupPage : SetupPage → SetupPage
  | .detector => .bot
  | .bot => .audit
  | .audit => .diagnostics
  | .diagnostics => .integrity
  | .integrity => .runtime
  | .runtime => .preview
  | .preview => .detector

/-- `setup_fields_for_page`. -/
def setupFieldsForPage : SetupPage → List SetupField
  | .detector => [.detectorBackend, .targetReadings, .literalSequencePatterns, .specialPhrases]
  | .bot => [.stampText, .sendTemplate, .reactionEmojiId, .reactionEmojiName, .reactionAnimated,
      .maxCountCap, .maxSendChars, .actionPolicy]
  | .audit => [.auditSqlitePath, .auditExportMaxRows, .auditQueryMaxRows, .pseudoIdHmacKeyEnv,
      .signatureEnabled, .signaturePath, .signatureHmacEnv]
  | .diagnostics => [.localSelfCheck, .verifyHardeningArtifacts, .verifyGeneratedArtifacts,
      .dependencySecurityCheckMode]
  | .integrity => [.signatureEnabled, .signaturePath, .signatureHmacEnv]
  | .runtime | .preview => []

/-- `setup_field_label`. -/
def setupFieldLabel : SetupField → Text
  | .detectorBackend => "detector.backend".toList
  | .targetReadings => "detector.target_readings".toList
  | .literalSequencePatterns => "detector.literal_sequence_patterns".toList
  | .specialPhrases => "detector.special_phrases".toList
  | .stampText => "bot.stamp_text".toList
  | .sendTemplate => "bot.send_template".toList
  | .reactionEmojiId => "bot.reaction.emoji_id".toList
  | .reactionEmojiName => "bot.reaction.emoji_name".toList
  | .reactionAnimated => "bot.reaction.animated".toList
  | .maxCountCap => "bot.max_count_cap".toList
  | .maxSendChars => "bot.max_send_chars".toList
  | .actionPolicy => "bot.action_policy".toList
  | .auditSqlitePath => "audit.sqlite_path".toList
  | .auditExportMaxRows => "audit.export_max_rows".toList
  | .auditQueryMaxRows => "audit.query_max_rows".toList
  | .pseudoIdHmacKeyEnv => "integrity.pseudo_id_hmac_key_env".toList
  | .signatureEnabled => "integrity.config_signature.enabled".toList
  | .signaturePath => "integrity.config_signature.detached_hmac_sha256_path".toList
  | .signatureHmacEnv => "integrity.config_signature.hmac_key_env".toList
  | .localSelfCheck => "diagnostics.local_self_check_on_startup".toList
  | .verifyHardeningArtifacts => "diagnostics.verify_hardening_artifacts".toList
  | .verifyGeneratedArtifacts => "diagnostics.verify_generated_artifacts".toList
  | .dependencySecurityCheckMode => "diagnostics.dependency_security_check_mode".toList

/-- `SetupState`. -/
structure SetupState (F : Type) where
  draft : StartupConfig F
  defaults : StartupConfig F
  page : SetupPage
  selected : ℕ

/-- `selected_setup_field`. -/
def selectedSetupField {F : Type} (setup : SetupState F) : Option SetupField :=
  (setupFieldsForPage setup.page)[setup.selected]?

/-- What the setup screen takes from elsewhere. -/
structure SetupTexts where
  catalog : UiCatalog
  /-- `serde_yaml::from_str` for a `DetectorBackendKind`. -/
  backendFromYaml : Text → Except Text DetectorBackendKind
  /-- `PathBuf::from`. -/
  pathFrom : Text → Files.Path
  /-- `Path::display`. -/
  display : Files.Path → Text

/-! ### Values -/

/-- The serde name of a `DetectorBackendKind`. -/
def DetectorBackendKind.variantName : DetectorBackendKind → Text
  | .morphologicalReading => "morphological_reading".toList
  | .fallback => "fallback".toList

/-- The serde name of an `ActionPolicy`. -/
def ActionPolicy.variantName : ActionPolicy → Text
  | .reactOrSend => "react_or_send".toList
  | .reactOnly => "react_only".toList
  | .noOutbound => "no_outbound".toList

/-- The serde name of a `DependencySecurityCheckMode`. -/
def DependencySecurityCheckMode.variantName : DependencySecurityCheckMode → Text
  | .disabled => "disabled".toList
  | .offlineSnapshot => "offline_snapshot".toList

/-- `bool::to_string`. -/
def boolText (b : Bool) : Text := if b then "true".toList else "false".toList

/-- `[String]::join`. -/
def joinComma (entries : List Text) : Text := [',', ' '].intercalate entries

section Values

variable {F : Type}

/-- `setup_field_value`. -/
def setupFieldValue (texts : SetupTexts) (language : UiLanguage) (config : StartupConfig F) :
    SetupField → Text
  | .detectorBackend => config.detector.backend.variantName
  | .targetReadings =>
      joinComma config.detector.targetReadings ++ " (".toList ++
        label texts.catalog language "setup.target_readings_hint" ++ ")".toList
  | .literalSequencePatterns => joinComma config.detector.literalSequencePatterns
  | .specialPhrases => joinComma config.detector.specialPhrases
  | .stampText => config.bot.stampText
  | .sendTemplate => config.bot.sendTemplate
  | .reactionEmojiId => natText config.bot.reaction.emojiId.toNat
  | .reactionEmojiName => config.bot.reaction.emojiName
  | .reactionAnimated => boolText config.bot.reaction.animated
  | .maxCountCap => natText config.bot.maxCountCap
  | .maxSendChars => natText config.bot.maxSendChars
  | .actionPolicy => config.bot.actionPolicy.variantName
  | .auditSqlitePath => texts.display config.audit.sqlitePath
  | .auditExportMaxRows => natText config.audit.exportMaxRows
  | .auditQueryMaxRows => natText config.audit.queryMaxRows
  | .pseudoIdHmacKeyEnv => config.integrity.pseudoIdHmacKeyEnv.getD []
  | .signatureEnabled => boolText config.integrity.configSignature.isSome
  | .signaturePath =>
      (config.integrity.configSignature.map fun value =>
        texts.display value.detachedHmacSha256Path).getD
          (label texts.catalog language "common.disabled")
  | .signatureHmacEnv =>
      (config.integrity.configSignature.map fun value => value.hmacKeyEnv).getD
        (label texts.catalog language "common.disabled")
  | .localSelfCheck => boolText config.diagnostics.localSelfCheckOnStartup
  | .verifyHardeningArtifacts => boolText config.diagnostics.verifyHardeningArtifacts
  | .verifyGeneratedArtifacts => boolText config.diagnostics.verifyGeneratedArtifacts
  | .dependencySecurityCheckMode => config.diagnostics.dependencySecurityCheckMode.variantName

/-! ### Defaults and toggles -/

/-- `restore_default_for_field`. -/
def restoreDefaultForField (setup : SetupState F) (field : SetupField) : SetupState F :=
  let draft := setup.draft
  let defaults := setup.defaults
  { setup with
    draft :=
      match field with
      | .detectorBackend =>
          { draft with detector := { draft.detector with backend := defaults.detector.backend } }
      | .targetReadings =>
          { draft with detector :=
              { draft.detector with targetReadings := defaults.detector.targetReadings } }
      | .literalSequencePatterns =>
          { draft with detector :=
              { draft.detector with
                literalSequencePatterns := defaults.detector.literalSequencePatterns } }
      | .specialPhrases =>
          { draft with detector :=
              { draft.detector with specialPhrases := defaults.detector.specialPhrases } }
      | .stampText => { draft with bot := { draft.bot with stampText := defaults.bot.stampText } }
      | .sendTemplate =>
          { draft with bot := { draft.bot with sendTemplate := defaults.bot.sendTemplate } }
      | .reactionEmojiId =>
          { draft with bot :=
              { draft.bot with reaction :=
                  { draft.bot.reaction with emojiId := defaults.bot.reaction.emojiId } } }
      | .reactionEmojiName =>
          { draft with bot :=
              { draft.bot with reaction :=
                  { draft.bot.reaction with emojiName := defaults.bot.reaction.emojiName } } }
      | .reactionAnimated =>
          { draft with bot :=
              { draft.bot with reaction :=
                  { draft.bot.reaction with animated := defaults.bot.reaction.animated } } }
      | .maxCountCap =>
          { draft with bot := { draft.bot with maxCountCap := defaults.bot.maxCountCap } }
      | .maxSendChars =>
          { draft with bot := { draft.bot with maxSendChars := defaults.bot.maxSendChars } }
      | .actionPolicy =>
          { draft with bot := { draft.bot with actionPolicy := defaults.bot.actionPolicy } }
      | .auditSqlitePath =>
          { draft with audit := { draft.audit with sqlitePath := defaults.audit.sqlitePath } }
      | .auditExportMaxRows =>
          { draft with audit := { draft.audit with exportMaxRows := defaults.audit.exportMaxRows } }
      | .auditQueryMaxRows =>
          { draft with audit := { draft.audit with queryMaxRows := defaults.audit.queryMaxRows } }
      | .pseudoIdHmacKeyEnv =>
          { draft with integrity :=
              { draft.integrity with
                pseudoIdHmacKeyEnv := defaults.integrity.pseudoIdHmacKeyEnv } }
      -- all three restore the signature as a whole
      | .signatureEnabled =>
          { draft with integrity :=
              { draft.integrity with configSignature := defaults.integrity.configSignature } }
      | .signaturePath =>
          { draft with integrity :=
              { draft.integrity with configSignature := defaults.integrity.configSignature } }
      | .signatureHmacEnv =>
          { draft with integrity :=
              { draft.integrity with configSignature := defaults.integrity.configSignature } }
      | .localSelfCheck =>
          { draft with diagnostics :=
              { draft.diagnostics with
                localSelfCheckOnStartup := defaults.diagnostics.localSelfCheckOnStartup } }
      | .verifyHardeningArtifacts =>
          { draft with diagnostics :=
              { draft.diagnostics with
                verifyHardeningArtifacts := defaults.diagnostics.verifyHardeningArtifacts } }
      | .verifyGeneratedArtifacts =>
          { draft with diagnostics :=
              { draft.diagnostics with
                verifyGeneratedArtifacts := defaults.diagnostics.verifyGeneratedArtifacts } }
      | .dependencySecurityCheckMode =>
          { draft with diagnostics :=
              { draft.diagnostics with
                dependencySecurityCheckMode :=
                  defaults.diagnostics.dependencySecurityCheckMode } } }

/-- The signature that the setup screen proposes. -/
def presetSignature (texts : SetupTexts) : ConfigSignatureConfig :=
  ⟨texts.pathFrom "config/oo-bot.yaml.sig".toList, "OO_CONFIG_HMAC_KEY".toList⟩

/-- `cycle_field_value`. -/
def cycleFieldValue (texts : SetupTexts) (setup : SetupState F) (field : SetupField) :
    SetupState F :=
  let draft := setup.draft
  match field with
  | .reactionAnimated =>
      { setup with draft := { draft with bot :=
          { draft.bot with reaction :=
              { draft.bot.reaction with animated := !draft.bot.reaction.animated } } } }
  | .actionPolicy =>
      { setup with draft := { draft with bot :=
          { draft.bot with actionPolicy :=
              (match draft.bot.actionPolicy with
              | .reactOrSend => .reactOnly
              | .reactOnly => .noOutbound
              | .noOutbound => .reactOrSend) } } }
  | .localSelfCheck =>
      { setup with draft := { draft with diagnostics :=
          { draft.diagnostics with
            localSelfCheckOnStartup := !draft.diagnostics.localSelfCheckOnStartup } } }
  | .verifyHardeningArtifacts =>
      { setup with draft := { draft with diagnostics :=
          { draft.diagnostics with
            verifyHardeningArtifacts := !draft.diagnostics.verifyHardeningArtifacts } } }
  | .verifyGeneratedArtifacts =>
      { setup with draft := { draft with diagnostics :=
          { draft.diagnostics with
            verifyGeneratedArtifacts := !draft.diagnostics.verifyGeneratedArtifacts } } }
  | .dependencySecurityCheckMode =>
      { setup with draft := { draft with diagnostics :=
          { draft.diagnostics with dependencySecurityCheckMode :=
              (match draft.diagnostics.dependencySecurityCheckMode with
              | .disabled => .offlineSnapshot
              | .offlineSnapshot => .disabled) } } }
  | .signatureEnabled =>
      { setup with draft := { draft with integrity :=
          { draft.integrity with configSignature :=
              (if draft.integrity.configSignature.isSome then none
              else some (presetSignature texts)) } } }
  | _ => setup

/-! ### Typed values -/

/-- `parse_csv`. -/
def parseCsv (raw : Text) : List Text :=
  ((raw.splitOn ',').map trim).filter fun entry => !entry.isEmpty

/-- `str::parse` for an unsigned integer up to `max`. -/
def parseUnsigned (max : ℕ) (s : Text) : Option ℕ :=
  let digits :=
    match s with
    | '+' :: digits => digits
    | _ => s
  if digits.isEmpty || !digits.all Char.isDigit then none
  else
    let n := digits.foldl (fun n c => 10 * n + (c.toNat - 48)) 0
    if n ≤ max then some n else none

/-- `ensure_signature_config`. -/
def ensureSignatureConfig (texts : SetupTexts) (config : StartupConfig F) : StartupConfig F :=
  if config.integrity.configSignature.isNone then
    { config with integrity :=
        { config.integrity with configSignature := some (presetSignature texts) } }
  else config

/-- A number that is typed for a field, with the error of the field. -/
def parseField (texts : SetupTexts) (language : UiLanguage) (error : String) (trimmed : Text) :
    Except Text ℕ :=
  Fallible.okOr (parseUnsigned maxUsize trimmed) (label texts.catalog language error)

/-- The draft with a text that is typed for a field. -/
def typedDraft (texts : SetupTexts) (language : UiLanguage) (draft : StartupConfig F)
    (field : SetupField) (trimmed : Text) : Except Text (StartupConfig F) :=
  match field with
  | .detectorBackend => do
      let backend ← texts.backendFromYaml trimmed
      pure { draft with detector := { draft.detector with backend := backend } }
  | .targetReadings =>
      pure { draft with detector := { draft.detector with targetReadings := parseCsv trimmed } }
  | .literalSequencePatterns =>
      pure { draft with detector :=
        { draft.detector with literalSequencePatterns := parseCsv trimmed } }
  | .specialPhrases =>
      pure { draft with detector := { draft.detector with specialPhrases := parseCsv trimmed } }
  | .stampText => pure { draft with bot := { draft.bot with stampText := trimmed } }
  | .sendTemplate => pure { draft with bot := { draft.bot with sendTemplate := trimmed } }
  | .reactionEmojiId => do
      let emojiId ← parseField texts language "error.emoji_id_u64" trimmed
      pure { draft with bot := { draft.bot with reaction :=
        { draft.bot.reaction with emojiId := UInt64.ofNat emojiId } } }
  | .reactionEmojiName =>
      pure { draft with bot := { draft.bot with reaction :=
        { draft.bot.reaction with emojiName := trimmed } } }
  | .reactionAnimated => pure draft
  | .maxCountCap => do
      let maxCountCap ← parseField texts language "error.max_count_cap_usize" trimmed
      pure { draft with bot := { draft.bot with maxCountCap := maxCountCap } }
  | .maxSendChars => do
      let maxSendChars ← parseField texts language "error.max_send_chars_usize" trimmed
      pure { draft with bot := { draft.bot with maxSendChars := maxSendChars } }
  | .actionPolicy => pure draft
  | .auditSqlitePath =>
      pure { draft with audit := { draft.audit with sqlitePath := texts.pathFrom trimmed } }
  | .auditExportMaxRows => do
      let exportMaxRows ← parseField texts language "error.export_max_rows_usize" trimmed
      pure { draft with audit := { draft.audit with exportMaxRows := exportMaxRows } }
  | .auditQueryMaxRows => do
      let queryMaxRows ← parseField texts language "error.query_max_rows_usize" trimmed
      pure { draft with audit := { draft.audit with queryMaxRows := queryMaxRows } }
  | .pseudoIdHmacKeyEnv =>
      pure { draft with integrity :=
        { draft.integrity with pseudoIdHmacKeyEnv := some trimmed } }
  | .signatureEnabled => pure draft
  | .signaturePath =>
      let draft := ensureSignatureConfig texts draft
      pure { draft with integrity :=
        { draft.integrity with
          configSignature := draft.integrity.configSignature.map
            fun signature => { signature with detachedHmacSha256Path := texts.pathFrom trimmed } } }
  | .signatureHmacEnv =>
      let draft := ensureSignatureConfig texts draft
      pure { draft with integrity :=
        { draft.integrity with
          configSignature := draft.integrity.configSignature.map
            fun signature => { signature with hmacKeyEnv := trimmed } } }
  | .localSelfCheck => pure draft
  | .verifyHardeningArtifacts => pure draft
  | .verifyGeneratedArtifacts => pure draft
  | .dependencySecurityCheckMode => pure draft

/-- `apply_custom_field_input`; nothing of the state is changed before an error. -/
def applyCustomFieldInput (texts : SetupTexts) (setup : SetupState F) (field : SetupField)
    (raw : Text) (language : UiLanguage) : Except Text (SetupState F) :=
  let trimmed := trim raw
  if trimmed.isEmpty then .ok (restoreDefaultForField setup field)
  else do
    let draft ← typedDraft texts language setup.draft field trimmed
    pure { setup with draft := draft }

end Values

end OoBot
