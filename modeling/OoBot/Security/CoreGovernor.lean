import OoBot.Security.ResponseCompiler

/-!
# `src/security/core_governor.rs`

The trusted core decides what to do with a message.  Its state holds the limiters, the mode, the
metrics and the analyzer, which is not trusted: `σ` is the type of the analyzer's own state, and
`TrustedCore` says nothing about what it answers.

* Instants are passed in where the code reads the clock.
* `f64` is any type `F` with the operations of `F64`.
* `compact` depends on the iteration order of a hash map, so a decision takes one.
-/

namespace OoBot

/-- `RuntimeProtectionConfig`. -/
structure RuntimeProtectionConfig (F : Type) where
  duplicateTtlMs : ℕ
  duplicateCacheCap : ℕ
  perUserCooldownMs : ℕ
  perChannelCooldownMs : ℕ
  perGuildCooldownMs : ℕ
  globalCooldownMs : ℕ
  globalRatePerSec : F
  globalRateBurst : ℕ
  maxActionsPerMessage : ℕ
  maxSendChars : ℕ
  longMessageSoftChars : ℕ
  longMessageHardChars : ℕ
  suspiciousRepetitionThreshold : ℕ
  breakerWindowMs : ℕ
  breakerThreshold : ℕ
  breakerOpenMs : ℕ
  sandboxFailureWindowMs : ℕ
  sandboxFailureThreshold : ℕ
  allowGuildIds : List UInt64
  denyGuildIds : List UInt64
  allowChannelIds : List UInt64
  denyChannelIds : List UInt64
  modeOverride : Option RuntimeMode
  emergencyKillSwitch : Bool
  sessionBudgetLowWatermark : ℕ

/-- `MessageContext`. -/
structure MessageContext where
  messageId : UInt64
  authorId : UInt64
  channelId : UInt64
  guildId : Option UInt64
  authorIsBot : Bool
  deriving DecidableEq

/-- `SuppressReason`. -/
inductive SuppressReason
  | selfTrigger
  | duplicate
  | cooldown
  | rateLimit
  | circuitOpen
  | channelDenied
  | guildDenied
  | modeRestricted
  | suspicious
  | invalidAction
  deriving DecidableEq, Repr

/-- `ActionDecision`. -/
structure ActionDecision where
  action : BotAction
  mode : RuntimeMode
  proposal : ActionProposal
  suspicion : SuspicionLevel
  suppressReason : Option SuppressReason
  deriving DecidableEq

/-- `u64::saturating_add(1)`. -/
def saturatingInc (n : UInt64) : UInt64 := if n = UInt64.ofNat (2 ^ 64 - 1) then n else n + 1

/-- `RuntimeMetrics`. -/
structure RuntimeMetrics where
  analyzerCallsTotal : UInt64 := 0
  analyzerTrapsTotal : UInt64 := 0
  analyzerTimeoutTotal : UInt64 := 0
  messagesDroppedTotal : UInt64 := 0
  duplicateSuppressedTotal : UInt64 := 0
  outboundSuppressedTotal : UInt64 := 0
  cooldownHitsTotal : UInt64 := 0
  invalidRequestPreventedTotal : UInt64 := 0
  sessionBudgetLowTotal : UInt64 := 0
  reconnectAttemptsTotal : UInt64 := 0
  resumeFailuresTotal : UInt64 := 0
  modeTransitionsTotal : UInt64 := 0

/-- `TrustedCore`. -/
structure TrustedCore (F σ : Type) where
  analyzer : ProposalAnalyzer σ
  analyzerState : σ
  detector : MessageDetector
  botConfig : BotConfig
  runtime : RuntimeProtectionConfig F
  mode : ModeState
  duplicateGuard : DuplicateGuard
  breaker : HttpCircuitBreaker
  outboundBucket : TokenBucket F
  userCooldown : CooldownMap
  channelCooldown : CooldownMap
  guildCooldown : CooldownMap
  globalCooldown : CooldownMap
  suspiciousCfg : SuspiciousInputConfig
  sessionBudget : SessionBudget
  sandboxFailures : List Instant
  lastDetection : Option DetectionReport
  metrics : RuntimeMetrics

/-- `is_outbound_proposal`. -/
def isOutboundProposal : ActionProposal → Bool
  | .specialPhrase | .reactOnce | .sendStamped _ => true
  | _ => false

/-- `enforce_action_caps`. -/
def enforceActionCaps (action : BotAction) (maxSendChars : ℕ) : BotAction :=
  match action with
  | .sendMessage content =>
      let capped := content.take maxSendChars
      if capped.isEmpty then .noop else .sendMessage capped
  | .react emojiId emojiName animated =>
      if emojiId == 0 || emojiName.isEmpty then .noop else .react emojiId emojiName animated
  | .noop => .noop

namespace TrustedCore

variable {F σ : Type}

/-- `TrustedCore::new_with_detector`. -/
def newWithDetector [F64 F] (analyzer : ProposalAnalyzer σ) (analyzerState : σ) (detector : MessageDetector)
    (botConfig : BotConfig) (runtime : RuntimeProtectionConfig F) (now : Instant) :
    TrustedCore F σ where
  analyzer := analyzer
  analyzerState := analyzerState
  detector := detector
  botConfig := botConfig
  runtime := runtime
  mode := ModeState.new now
  duplicateGuard := DuplicateGuard.new (fromMillis runtime.duplicateTtlMs) runtime.duplicateCacheCap
  breaker := HttpCircuitBreaker.new (fromMillis runtime.breakerWindowMs) runtime.breakerThreshold
    (fromMillis runtime.breakerOpenMs)
  outboundBucket := TokenBucket.new runtime.globalRateBurst runtime.globalRatePerSec now
  userCooldown := CooldownMap.new (fromMillis runtime.perUserCooldownMs)
  channelCooldown := CooldownMap.new (fromMillis runtime.perChannelCooldownMs)
  guildCooldown := CooldownMap.new (fromMillis runtime.perGuildCooldownMs)
  globalCooldown := CooldownMap.new (fromMillis runtime.globalCooldownMs)
  suspiciousCfg := ⟨runtime.longMessageSoftChars, runtime.longMessageHardChars,
    runtime.suspiciousRepetitionThreshold⟩
  sessionBudget := SessionBudget.new 1000 1000 (24 * 60 * 60) runtime.sessionBudgetLowWatermark
  sandboxFailures := []
  lastDetection := none
  metrics := {}

/-! ### Setters -/

/-- `set_mode_override`. -/
def setModeOverride (self : TrustedCore F σ) (mode : Option RuntimeMode) : TrustedCore F σ :=
  { self with runtime := { self.runtime with modeOverride := mode } }

/-- `set_emergency_kill_switch`. -/
def setEmergencyKillSwitch (self : TrustedCore F σ) (enabled : Bool) : TrustedCore F σ :=
  { self with runtime := { self.runtime with emergencyKillSwitch := enabled } }

/-- `set_access_lists`. -/
def setAccessLists (self : TrustedCore F σ)
    (allowGuildIds denyGuildIds allowChannelIds denyChannelIds : List UInt64) : TrustedCore F σ :=
  { self with runtime := { self.runtime with
      allowGuildIds := allowGuildIds
      denyGuildIds := denyGuildIds
      allowChannelIds := allowChannelIds
      denyChannelIds := denyChannelIds } }

/-- `set_suspicious_thresholds`. -/
def setSuspiciousThresholds (self : TrustedCore F σ) (softChars hardChars repetition : ℕ) :
    TrustedCore F σ :=
  { self with suspiciousCfg := ⟨softChars, hardChars, max repetition 1⟩ }

/-- `reset_suspicious_thresholds`. -/
def resetSuspiciousThresholds (self : TrustedCore F σ) : TrustedCore F σ :=
  { self with suspiciousCfg := ⟨self.runtime.longMessageSoftChars,
      self.runtime.longMessageHardChars, max self.runtime.suspiciousRepetitionThreshold 1⟩ }

/-- `update_session_budget`. -/
def updateSessionBudget (self : TrustedCore F σ) (total remaining resetAfterSecs : ℕ) :
    TrustedCore F σ :=
  { self with
    sessionBudget := SessionBudget.new total remaining resetAfterSecs
      self.runtime.sessionBudgetLowWatermark }

/-- `record_http_status`. -/
def recordHttpStatus (self : TrustedCore F σ) (status : ℕ) (now : Instant) : TrustedCore F σ :=
  { self with
    metrics :=
      if HttpCircuitBreaker.isFailure status then
        { self.metrics with
          invalidRequestPreventedTotal := saturatingInc self.metrics.invalidRequestPreventedTotal }
      else self.metrics
    breaker := self.breaker.recordStatus status now }

/-- `record_reconnect_attempt`. -/
def recordReconnectAttempt (self : TrustedCore F σ) : TrustedCore F σ :=
  { self with metrics := { self.metrics with
      reconnectAttemptsTotal := saturatingInc self.metrics.reconnectAttemptsTotal } }

/-- `record_resume_failure`. -/
def recordResumeFailure (self : TrustedCore F σ) : TrustedCore F σ :=
  { self with metrics := { self.metrics with
      resumeFailuresTotal := saturatingInc self.metrics.resumeFailuresTotal } }

/-! ### Guards -/

/-- `allow_channel`. -/
def allowChannel (self : TrustedCore F σ) (channelId : UInt64) : Bool :=
  if self.runtime.denyChannelIds.contains channelId then false
  else if self.runtime.allowChannelIds.isEmpty then true
  else self.runtime.allowChannelIds.contains channelId

/-- `allow_guild`. -/
def allowGuild (self : TrustedCore F σ) (guildId : Option UInt64) : Bool :=
  match guildId with
  | none => true
  | some gid =>
      if self.runtime.denyGuildIds.contains gid then false
      else if self.runtime.allowGuildIds.isEmpty then true
      else self.runtime.allowGuildIds.contains gid

/-- `trim_sandbox_failures`. -/
def trimSandboxFailures (self : TrustedCore F σ) (now : Instant) : TrustedCore F σ :=
  { self with sandboxFailures :=
      trimFront (fromMillis self.runtime.sandboxFailureWindowMs) now self.sandboxFailures }

/-- The target of `recompute_mode` once the failures are trimmed. -/
def targetMode (self : TrustedCore F σ) (now : Instant) : RuntimeMode × ModeTrigger :=
  if self.runtime.emergencyKillSwitch then (.fullDisable, .emergencyKillSwitch)
  else
    match self.runtime.modeOverride with
    | some overrideMode => (overrideMode, .operatorOverride)
    | none =>
        if self.sessionBudget.isLow then (.reactOnly, .sessionBudgetLow)
        else if self.breaker.isOpen now then (.observeOnly, .circuitBreakerOpen)
        else if self.sandboxFailures.length ≥ self.runtime.sandboxFailureThreshold then
          (.auditOnly, .sandboxFailureSpike)
        else (.normal, .recovery)

/-- `recompute_mode`. -/
def recomputeMode (self : TrustedCore F σ) (now : Instant) : RuntimeMode × TrustedCore F σ :=
  let self := self.trimSandboxFailures now
  let target := self.targetMode now
  let self :=
    if target.2 = .sessionBudgetLow then
      { self with metrics := { self.metrics with
          sessionBudgetLowTotal := saturatingInc self.metrics.sessionBudgetLowTotal } }
    else self
  let (changed, mode) := self.mode.transition target.1 target.2 now
  let self := { self with mode := mode }
  let self :=
    if changed then
      { self with metrics := { self.metrics with
          modeTransitionsTotal := saturatingInc self.metrics.modeTransitionsTotal } }
    else self
  (self.mode.mode, self)

/-- `drop`. -/
def dropMessage (self : TrustedCore F σ) (mode : RuntimeMode) (proposal : ActionProposal)
    (suspicion : SuspicionLevel) (reason : SuppressReason) : ActionDecision × TrustedCore F σ :=
  ({ action := .noop, mode := mode, proposal := proposal, suspicion := suspicion,
     suppressReason := some reason },
   { self with metrics := { self.metrics with
      messagesDroppedTotal := saturatingInc self.metrics.messagesDroppedTotal
      outboundSuppressedTotal := saturatingInc self.metrics.outboundSuppressedTotal } })

/-- `record_analyzer_error`. -/
def recordAnalyzerError (self : TrustedCore F σ) (now : Instant) (err : AnalyzerError) :
    TrustedCore F σ :=
  let self :=
    { self with metrics :=
        match err with
        | .timeout => { self.metrics with
            analyzerTimeoutTotal := saturatingInc self.metrics.analyzerTimeoutTotal }
        | _ => { self.metrics with
            analyzerTrapsTotal := saturatingInc self.metrics.analyzerTrapsTotal } }
  { self with sandboxFailures := self.sandboxFailures ++ [now] }.trimSandboxFailures now

/-- `cooldown_allows`; the guild is marked before the global cooldown is looked at. -/
def cooldownAllows (self : TrustedCore F σ) (ctx : MessageContext) (now : Instant) :
    Bool × TrustedCore F σ :=
  if self.userCooldown.isCooling ctx.authorId now then (false, self)
  else if self.channelCooldown.isCooling ctx.channelId now then (false, self)
  else
    let guildCooling :=
      match ctx.guildId with
      | some guildId => self.guildCooldown.isCooling guildId now
      | none => false
    if guildCooling then (false, self)
    else
      let self :=
        match ctx.guildId with
        | some guildId => { self with guildCooldown := self.guildCooldown.mark guildId now }
        | none => self
      if self.globalCooldown.isCooling 0 now then (false, self)
      else
        (true, { self with
          userCooldown := self.userCooldown.mark ctx.authorId now
          channelCooldown := self.channelCooldown.mark ctx.channelId now
          globalCooldown := self.globalCooldown.mark 0 now })

/-! ### Decisions -/

variable [F64 F]

/-- `finalize`. -/
def finalize (self : TrustedCore F σ) (ctx : MessageContext) (proposal : ActionProposal)
    (suspicion : SuspicionLevel) (mode : RuntimeMode) (now : Instant)
    (detection : Option DetectionReport) : ActionDecision × TrustedCore F σ :=
  let action := compileResponseFromDetection proposal mode suspicion self.botConfig
    self.runtime.maxSendChars self.botConfig.maxCountCap detection
  if action = .noop then
    if mode ≠ .normal ∧ isOutboundProposal proposal then
      self.dropMessage mode proposal suspicion .modeRestricted
    else if proposal = .suspiciousInput then self.dropMessage mode proposal suspicion .suspicious
    else if isOutboundProposal proposal then
      self.dropMessage mode proposal suspicion .invalidAction
    else
      ({ action := action, mode := mode, proposal := proposal, suspicion := suspicion,
         suppressReason := none }, self)
  else if !self.breaker.allowsOutbound now then
    self.dropMessage mode proposal suspicion .circuitOpen
  else
    let (taken, outboundBucket) := self.outboundBucket.tryTake 1 now
    let self := { self with outboundBucket := outboundBucket }
    if !taken then self.dropMessage mode proposal suspicion .rateLimit
    else if self.runtime.maxActionsPerMessage = 0 then
      self.dropMessage mode proposal suspicion .invalidAction
    else
      let (allowed, self) := self.cooldownAllows ctx now
      if !allowed then
        let self := { self with metrics := { self.metrics with
          cooldownHitsTotal := saturatingInc self.metrics.cooldownHitsTotal } }
        self.dropMessage mode proposal suspicion .cooldown
      else
        let action := enforceActionCaps action self.runtime.maxSendChars
        if isInvalidAction action then self.dropMessage mode proposal suspicion .invalidAction
        else
          ({ action := action, mode := mode, proposal := proposal, suspicion := suspicion,
             suppressReason := none }, self)

/-- What the core asks the analyzer. -/
def request (content : Text) (detection : DetectionReport) : AnalyzerRequest where
  content := content
  kanjiCount := detection.backendCountForSandbox
  specialPhraseHit := detection.specialPhraseHit

/-- Asking the analyzer; an error counts as `Defer`. -/
def askAnalyzer (self : TrustedCore F σ) (req : AnalyzerRequest) (now : Instant) :
    ActionProposal × TrustedCore F σ :=
  let self := { self with metrics := { self.metrics with
    analyzerCallsTotal := saturatingInc self.metrics.analyzerCallsTotal } }
  let (answer, analyzerState) := self.analyzer req self.analyzerState
  let self := { self with analyzerState := analyzerState }
  match answer with
  | .ok p => (p, self)
  | .error err => (.defer, self.recordAnalyzerError now err)

/-- `decide_message`. -/
def decideMessage (nfkc : Text → Text) (self : TrustedCore F σ) (ctx : MessageContext)
    (content : Text) (now : Instant) (order : IterOrder UInt64 Instant) :
    ActionDecision × TrustedCore F σ :=
  let (mode, self) := self.recomputeMode now
  if mode = .fullDisable then self.dropMessage mode .noop .none .modeRestricted
  else if ctx.authorIsBot then self.dropMessage mode .noop .none .selfTrigger
  else if !self.allowGuild ctx.guildId then self.dropMessage mode .noop .none .guildDenied
  else if !self.allowChannel ctx.channelId then self.dropMessage mode .noop .none .channelDenied
  else
    let (isDup, duplicateGuard) := self.duplicateGuard.isDuplicateAndMark ctx.messageId now order
    let self := { self with duplicateGuard := duplicateGuard }
    if isDup then
      let self := { self with metrics := { self.metrics with
        duplicateSuppressedTotal := saturatingInc self.metrics.duplicateSuppressedTotal } }
      self.dropMessage mode .noop .none .duplicate
    else
      let suspicion := classifySuspiciousInput nfkc content self.suspiciousCfg
      let detection := self.detector content
      let self := { self with lastDetection := some detection }
      if suspicion = .hard then
        self.finalize ctx .suspiciousInput suspicion mode now (some detection)
      else
        let (proposal, self) := self.askAnalyzer (request content detection) now
        self.finalize ctx proposal suspicion mode now (some detection)

end TrustedCore

end OoBot
