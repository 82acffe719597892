import OoBot.Security.CoreGovernor

/-!
# What a decision is made of

`decideMessage` asks one guard after the other.  `Admitted` collects those before the analyzer is
asked, `Passes` the limiters after it, and `response` is the compiled action in between, all of them
read off the state before the decision.  `decideMessage_eq_response` and `decideMessage_ne_noop` say
that these three decide about every outbound action.
-/

namespace OoBot

/-! ### Actions that may be delivered -/

/-- An action that can be carried out: a reaction with an emoji, or a text of admissible length that
shows something. -/
def Deliverable (maxSendChars : ℕ) : BotAction → Prop
  | .noop => False
  | .react emojiId emojiName _ => emojiId ≠ 0 ∧ emojiName ≠ []
  | .sendMessage content => content.length ≤ maxSendChars ∧ isBlank content = false

theorem release_deliverable {suspicion : SuspicionLevel} {mode : RuntimeMode} {bot : BotConfig}
    {maxSendChars : ℕ} {proposed : BotAction}
    (h : release suspicion mode bot maxSendChars proposed ≠ .noop) :
    Deliverable maxSendChars (release suspicion mode bot maxSendChars proposed) := by
  unfold release at h ⊢
  generalize applyActionPolicy (applyModeGate mode (soften suspicion proposed bot) bot) bot = a at h ⊢
  simp only at h ⊢
  split_ifs at h ⊢ with hinv
  · exact absurd rfl h
  · cases a with
    | noop => exact absurd rfl h
    | react emojiId emojiName animated =>
      simpa [enforceSendCap, isInvalidAction, Deliverable] using hinv
    | sendMessage content =>
      unfold enforceSendCap at h hinv ⊢
      simp only at h hinv ⊢
      split_ifs at h hinv ⊢ with hb
      · exact absurd rfl h
      · exact ⟨List.length_take_le _ _, by simpa using hb⟩

/-- The second cap leaves a deliverable action as it is. -/
theorem Deliverable.caps {maxSendChars : ℕ} {a : BotAction} (h : Deliverable maxSendChars a) :
    enforceActionCaps a maxSendChars = a ∧ isInvalidAction a = false := by
  cases a with
  | noop => exact absurd h id
  | react emojiId emojiName animated =>
    obtain ⟨hid, hname⟩ := h
    simp [enforceActionCaps, isInvalidAction, hid, hname]
  | sendMessage content =>
    obtain ⟨hlen, hb⟩ := h
    have hne : content ≠ [] := by
      rintro rfl
      revert hb
      decide
    simp [enforceActionCaps, isInvalidAction, List.take_of_length_le hlen, hne, hb]

namespace TrustedCore

variable {F σ : Type}

/-- The mode that `recompute_mode` arrives at. -/
def effectiveMode (self : TrustedCore F σ) (now : Instant) : RuntimeMode :=
  ((self.trimSandboxFailures now).targetMode now).1

/-- The proposal that reaches `finalize`. -/
def proposalFor (nfkc : Text → Text) (self : TrustedCore F σ) (content : Text) : ActionProposal :=
  if classifySuspiciousInput nfkc content self.suspiciousCfg = .hard then .suspiciousInput
  else
    match (self.analyzer (request content (self.detector content)) self.analyzerState).1 with
    | .ok p => p
    | .error _ => .defer

/-- The instants at which the analyzer failed, after a message that is admitted. -/
def failuresAfter (nfkc : Text → Text) (self : TrustedCore F σ) (content : Text) (now : Instant) :
    List Instant :=
  let window := fromMillis self.runtime.sandboxFailureWindowMs
  let recent := trimFront window now self.sandboxFailures
  if classifySuspiciousInput nfkc content self.suspiciousCfg = .hard then recent
  else
    match (self.analyzer (request content (self.detector content)) self.analyzerState).1 with
    | .ok _ => recent
    | .error _ => trimFront window now (recent ++ [now])

/-- The action that `finalize` compiles. -/
def compiled (self : TrustedCore F σ) (proposal : ActionProposal) (suspicion : SuspicionLevel)
    (mode : RuntimeMode) (detection : Option DetectionReport) : BotAction :=
  compileResponseFromDetection proposal mode suspicion self.botConfig self.runtime.maxSendChars
    self.botConfig.maxCountCap detection

/-- The action that the proposal for a message stands for. -/
def proposed (nfkc : Text → Text) (self : TrustedCore F σ) (content : Text) : BotAction :=
  proposalToAction (self.proposalFor nfkc content) self.botConfig
    (min (self.detector content).totalCount (max self.botConfig.maxCountCap 1))
    (self.detector content).matchedBackend (self.detector content).matchedReadings.head?

/-- The action compiled for a message. -/
def response (nfkc : Text → Text) (self : TrustedCore F σ) (content : Text) (now : Instant) :
    BotAction :=
  self.compiled (self.proposalFor nfkc content)
    (classifySuspiciousInput nfkc content self.suspiciousCfg) (self.effectiveMode now)
    (some (self.detector content))

/-- The guards before the analyzer is asked. -/
structure Admitted (core : TrustedCore F σ) (ctx : MessageContext) (now : Instant) : Prop where
  mode : core.effectiveMode now ≠ .fullDisable
  author : ctx.authorIsBot = false
  guild : core.allowGuild ctx.guildId = true
  channel : core.allowChannel ctx.channelId = true
  fresh : ¬ core.duplicateGuard.Live ctx.messageId now

/-- The guards before the duplicate guard let the message through. -/
def screened (self : TrustedCore F σ) (ctx : MessageContext) (now : Instant) : Bool :=
  self.effectiveMode now != .fullDisable && !ctx.authorIsBot && self.allowGuild ctx.guildId &&
    self.allowChannel ctx.channelId

/-- What the first of these guards that stops the message says. -/
def screenReason (self : TrustedCore F σ) (ctx : MessageContext) (now : Instant) : SuppressReason :=
  if self.effectiveMode now = .fullDisable then .modeRestricted
  else if ctx.authorIsBot then .selfTrigger
  else if !self.allowGuild ctx.guildId then .guildDenied
  else .channelDenied

/-- The state with another mode and other metrics. -/
def withBooks (self : TrustedCore F σ) (mode : ModeState) (metrics : RuntimeMetrics) :
    TrustedCore F σ :=
  { self with mode := mode, metrics := metrics }

/-- The state once the duplicate guard has marked the message. -/
def marked (self : TrustedCore F σ) (ctx : MessageContext) (now : Instant)
    (order : IterOrder UInt64 Instant) : TrustedCore F σ :=
  { self.trimSandboxFailures now with
    duplicateGuard := (self.duplicateGuard.isDuplicateAndMark ctx.messageId now order).2 }

/-- The analyzer's own state, after a message that is admitted. -/
def analyzerStateAfter (nfkc : Text → Text) (self : TrustedCore F σ) (content : Text) : σ :=
  if classifySuspiciousInput nfkc content self.suspiciousCfg = .hard then self.analyzerState
  else (self.analyzer (request content (self.detector content)) self.analyzerState).2

/-- The state once the analyzer has been asked about an admitted message. -/
def asked (nfkc : Text → Text) (self : TrustedCore F σ) (ctx : MessageContext) (content : Text)
    (now : Instant) (order : IterOrder UInt64 Instant) : TrustedCore F σ :=
  { self.marked ctx now order with
    lastDetection := some (self.detector content)
    analyzerState := self.analyzerStateAfter nfkc content
    sandboxFailures := self.failuresAfter nfkc content now }

/-- No cooldown of the message is running. -/
structure NotCooling (core : TrustedCore F σ) (ctx : MessageContext) (now : Instant) : Prop where
  user : core.userCooldown.isCooling ctx.authorId now = false
  channel : core.channelCooldown.isCooling ctx.channelId now = false
  guild : ∀ g, ctx.guildId = some g → core.guildCooldown.isCooling g now = false
  globally : core.globalCooldown.isCooling 0 now = false

/-- The limiters after the analyzer has answered. -/
structure Passes [F64 F] (core : TrustedCore F σ) (ctx : MessageContext) (now : Instant) :
    Prop where
  breaker : core.breaker.isOpen now = false
  token : F64.le (F64.ofNat 1) (core.outboundBucket.refill now).tokens = true
  actions : core.runtime.maxActionsPerMessage ≠ 0
  cooldown : core.NotCooling ctx now

theorem response_eq_release (nfkc : Text → Text) (self : TrustedCore F σ) (content : Text)
    (now : Instant) : self.response nfkc content now =
      release (classifySuspiciousInput nfkc content self.suspiciousCfg) (self.effectiveMode now)
        self.botConfig self.runtime.maxSendChars (self.proposed nfkc content) :=
  rfl

/-! ### The steps of a decision -/

/-- The mode step changes the mode, the failures and the metrics only. -/
theorem recomputeMode_eq (self : TrustedCore F σ) (now : Instant) :
    ∃ mode metrics, self.recomputeMode now = (self.effectiveMode now,
      { self with
        sandboxFailures := trimFront (fromMillis self.runtime.sandboxFailureWindowMs) now
          self.sandboxFailures
        mode := mode
        metrics := metrics }) := by
  have hmode : ∀ metrics : RuntimeMetrics, (({ self.trimSandboxFailures now with
      metrics := metrics } : TrustedCore F σ).mode.transition (self.effectiveMode now)
      ((self.trimSandboxFailures now).targetMode now).2 now).2.mode = self.effectiveMode now :=
    fun metrics => ModeState.transition_mode _ _ _ _
  unfold recomputeMode
  unfold effectiveMode at hmode ⊢
  simp only
  split_ifs <;> exact ⟨_, _, Prod.ext (hmode _) rfl⟩

/-- Asking the analyzer changes its state, the failures and the metrics only. -/
theorem askAnalyzer_eq (self : TrustedCore F σ) (req : AnalyzerRequest) (now : Instant) :
    ∃ metrics, self.askAnalyzer req now =
      ((match (self.analyzer req self.analyzerState).1 with
        | .ok p => p
        | .error _ => .defer),
      { self with
        analyzerState := (self.analyzer req self.analyzerState).2
        sandboxFailures :=
          match (self.analyzer req self.analyzerState).1 with
          | .ok _ => self.sandboxFailures
          | .error _ => trimFront (fromMillis self.runtime.sandboxFailureWindowMs) now
              (self.sandboxFailures ++ [now])
        metrics := metrics }) := by
  unfold askAnalyzer
  simp only
  cases h : (self.analyzer req self.analyzerState).1 with
  | ok p => exact ⟨_, rfl⟩
  | error err => exact ⟨_, rfl⟩

theorem cooldownAllows_eq_true_iff (self : TrustedCore F σ) (ctx : MessageContext)
    (now : Instant) : (self.cooldownAllows ctx now).1 = true ↔ self.NotCooling ctx now := by
  unfold cooldownAllows
  cases hu : self.userCooldown.isCooling ctx.authorId now with
  | true => exact ⟨fun h => by simp at h, fun h => by simp [h.user] at hu⟩
  | false =>
    cases hc : self.channelCooldown.isCooling ctx.channelId now with
    | true => exact ⟨fun h => by simp at h, fun h => by simp [h.channel] at hc⟩
    | false =>
      cases hid : ctx.guildId with
      | none =>
        cases hg : self.globalCooldown.isCooling 0 now with
        | true => exact ⟨fun h => by simp [hg] at h, fun h => by simp [h.globally] at hg⟩
        | false => exact ⟨fun _ => ⟨hu, hc, fun g h => by simp [hid] at h, hg⟩, fun _ => by simp [hg]⟩
      | some g =>
        cases hgc : self.guildCooldown.isCooling g now with
        | true => exact ⟨fun h => by simp [hgc] at h, fun h => by simp [h.guild g hid] at hgc⟩
        | false =>
          cases hg : self.globalCooldown.isCooling 0 now with
          | true => exact ⟨fun h => by simp [hg, hgc] at h, fun h => by simp [h.globally] at hg⟩
          | false =>
            refine ⟨fun _ => ⟨hu, hc, fun g' h => ?_, hg⟩, fun _ => by simp [hg, hgc]⟩
            rw [hid] at h
            cases h
            exact hgc

/-- The cooldown step changes the cooldowns only. -/
theorem cooldownAllows_frame (self : TrustedCore F σ) (ctx : MessageContext) (now : Instant) :
    (self.cooldownAllows ctx now).2 =
      { self with
        userCooldown := (self.cooldownAllows ctx now).2.userCooldown
        channelCooldown := (self.cooldownAllows ctx now).2.channelCooldown
        guildCooldown := (self.cooldownAllows ctx now).2.guildCooldown
        globalCooldown := (self.cooldownAllows ctx now).2.globalCooldown } := by
  unfold cooldownAllows
  cases ctx.guildId <;> simp only <;> split_ifs <;> rfl

theorem cooldownAllows_runtime (self : TrustedCore F σ) (ctx : MessageContext) (now : Instant) :
    (self.cooldownAllows ctx now).2.runtime = self.runtime := by
  rw [cooldownAllows_frame]

theorem cooldownAllows_bucket (self : TrustedCore F σ) (ctx : MessageContext) (now : Instant) :
    (self.cooldownAllows ctx now).2.outboundBucket = self.outboundBucket := by
  rw [cooldownAllows_frame]

/-- Two states that agree in the configuration and in the limiters of the last step. -/
structure SameLimits (a b : TrustedCore F σ) : Prop where
  analyzer : a.analyzer = b.analyzer
  detector : a.detector = b.detector
  botConfig : a.botConfig = b.botConfig
  runtime : a.runtime = b.runtime
  breaker : a.breaker = b.breaker
  outboundBucket : a.outboundBucket = b.outboundBucket
  userCooldown : a.userCooldown = b.userCooldown
  channelCooldown : a.channelCooldown = b.channelCooldown
  guildCooldown : a.guildCooldown = b.guildCooldown
  globalCooldown : a.globalCooldown = b.globalCooldown

theorem SameLimits.passes [F64 F] {a b : TrustedCore F σ} (h : a.SameLimits b)
    {ctx : MessageContext} {now : Instant} (hp : b.Passes ctx now) : a.Passes ctx now where
  breaker := by rw [h.breaker]; exact hp.breaker
  token := by rw [h.outboundBucket]; exact hp.token
  actions := by rw [h.runtime]; exact hp.actions
  cooldown :=
    { user := by rw [h.userCooldown]; exact hp.cooldown.user
      channel := by rw [h.channelCooldown]; exact hp.cooldown.channel
      guild := by rw [h.guildCooldown]; exact hp.cooldown.guild
      globally := by rw [h.globalCooldown]; exact hp.cooldown.globally }

theorem SameLimits.symm {a b : TrustedCore F σ} (h : a.SameLimits b) : b.SameLimits a :=
  ⟨h.analyzer.symm, h.detector.symm, h.botConfig.symm, h.runtime.symm, h.breaker.symm,
    h.outboundBucket.symm, h.userCooldown.symm, h.channelCooldown.symm, h.guildCooldown.symm,
    h.globalCooldown.symm⟩

theorem SameLimits.compiled_eq {a b : TrustedCore F σ} (h : a.SameLimits b)
    (proposal : ActionProposal) (suspicion : SuspicionLevel) (mode : RuntimeMode)
    (detection : Option DetectionReport) :
    a.compiled proposal suspicion mode detection = b.compiled proposal suspicion mode detection := by
  unfold compiled
  rw [h.botConfig, h.runtime]

section Finalize

variable {self : TrustedCore F σ} {ctx : MessageContext} {proposal : ActionProposal}
  {suspicion : SuspicionLevel} {mode : RuntimeMode} {now : Instant}
  {detection : Option DetectionReport}

theorem compiled_deliverable (h : self.compiled proposal suspicion mode detection ≠ .noop) :
    Deliverable self.runtime.maxSendChars (self.compiled proposal suspicion mode detection) :=
  release_deliverable h

variable [F64 F]

/-- The state in which the cooldowns are looked at. -/
abbrev afterTake (self : TrustedCore F σ) (now : Instant) : TrustedCore F σ :=
  { self with outboundBucket := (self.outboundBucket.tryTake 1 now).2 }

/-- The last step, as one chain of tests. -/
theorem finalize_eq :
    self.finalize ctx proposal suspicion mode now detection =
      if self.compiled proposal suspicion mode detection = .noop then
        if mode ≠ .normal ∧ isOutboundProposal proposal then
          self.dropMessage mode proposal suspicion .modeRestricted
        else if proposal = .suspiciousInput then
          self.dropMessage mode proposal suspicion .suspicious
        else if isOutboundProposal proposal then
          self.dropMessage mode proposal suspicion .invalidAction
        else (⟨.noop, mode, proposal, suspicion, none⟩, self)
      else if self.breaker.isOpen now then
        self.dropMessage mode proposal suspicion .circuitOpen
      else if !(self.outboundBucket.tryTake 1 now).1 then
        (self.afterTake now).dropMessage mode proposal suspicion .rateLimit
      else if self.runtime.maxActionsPerMessage = 0 then
        (self.afterTake now).dropMessage mode proposal suspicion .invalidAction
      else if !((self.afterTake now).cooldownAllows ctx now).1 then
        ({ ((self.afterTake now).cooldownAllows ctx now).2 with metrics :=
            { ((self.afterTake now).cooldownAllows ctx now).2.metrics with
              cooldownHitsTotal := saturatingInc
                ((self.afterTake now).cooldownAllows ctx now).2.metrics.cooldownHitsTotal } } :
          TrustedCore F σ).dropMessage mode proposal suspicion .cooldown
      else
        (⟨self.compiled proposal suspicion mode detection, mode, proposal, suspicion, none⟩,
          ((self.afterTake now).cooldownAllows ctx now).2) := by
  have hcomp : compileResponseFromDetection proposal mode suspicion self.botConfig
      self.runtime.maxSendChars self.botConfig.maxCountCap detection =
      self.compiled proposal suspicion mode detection := rfl
  unfold finalize
  simp only [hcomp, HttpCircuitBreaker.allowsOutbound_eq, Bool.not_not]
  by_cases hc : self.compiled proposal suspicion mode detection = .noop
  · simp only [hc, if_true]
  · -- what the compiler lets through is not cut and not invalid, so the checks after it pass
    obtain ⟨hcaps, hinv⟩ := (compiled_deliverable hc).caps
    have hrun := cooldownAllows_runtime (self.afterTake now) ctx now
    simp only [if_neg hc, hrun, hcaps, hinv, Bool.false_eq_true, if_false]

/-- The last step reports the proposal it was given. -/
theorem finalize_proposal :
    (self.finalize ctx proposal suspicion mode now detection).1.proposal = proposal := by
  rw [finalize_eq]
  split_ifs <;> rfl

/-- The last step changes the bucket, the cooldowns and the metrics only. -/
theorem finalize_frame :
    (self.finalize ctx proposal suspicion mode now detection).2 =
      { self with
        outboundBucket := (self.finalize ctx proposal suspicion mode now detection).2.outboundBucket
        userCooldown := (self.finalize ctx proposal suspicion mode now detection).2.userCooldown
        channelCooldown := (self.finalize ctx proposal suspicion mode now detection).2.channelCooldown
        guildCooldown := (self.finalize ctx proposal suspicion mode now detection).2.guildCooldown
        globalCooldown := (self.finalize ctx proposal suspicion mode now detection).2.globalCooldown
        metrics := (self.finalize ctx proposal suspicion mode now detection).2.metrics } := by
  have hcool := cooldownAllows_frame (self.afterTake now) ctx now
  rw [finalize_eq]
  generalize (self.afterTake now).cooldownAllows ctx now = checked at hcool ⊢
  split_ifs
  all_goals try rfl
  · unfold dropMessage
    simp only
    rw [hcool]
  · simp only
    rw [hcool]

/-- The last step leaves the failures as they are. -/
theorem finalize_failures :
    (self.finalize ctx proposal suspicion mode now detection).2.sandboxFailures =
      self.sandboxFailures := by
  rw [finalize_frame]

/-- Nothing but the compiled action leaves the last step, and only past every limiter; a token is
taken for it. -/
theorem finalize_ne_noop
    (h : (self.finalize ctx proposal suspicion mode now detection).1.action ≠ .noop) :
    self.compiled proposal suspicion mode detection ≠ .noop ∧ self.Passes ctx now ∧
      (self.finalize ctx proposal suspicion mode now detection).1 =
        ⟨self.compiled proposal suspicion mode detection, mode, proposal, suspicion, none⟩ ∧
      (self.finalize ctx proposal suspicion mode now detection).2.outboundBucket =
        (self.outboundBucket.tryTake 1 now).2 := by
  rw [finalize_eq] at h ⊢
  split_ifs at h ⊢ with hc _ _ _ hb ht ha hcool
  all_goals try exact absurd rfl h
  have hcool' : ((self.afterTake now).cooldownAllows ctx now).1 = true := by simpa using hcool
  have hnot := (cooldownAllows_eq_true_iff _ _ _).1 hcool'
  refine ⟨hc, ⟨by simpa using hb, ?_, ha, ?_⟩, rfl, cooldownAllows_bucket _ _ _⟩
  · exact (TokenBucket.tryTake_eq_true_iff _ _ _).1 (by simpa using ht)
  · exact ⟨hnot.user, hnot.channel, hnot.guild, hnot.globally⟩

/-- With every limiter open the compiled action leaves the last step. -/
theorem finalize_of_passes (hc : self.compiled proposal suspicion mode detection ≠ .noop)
    (hp : self.Passes ctx now) :
    (self.finalize ctx proposal suspicion mode now detection).1.action =
      self.compiled proposal suspicion mode detection := by
  have ht : (self.outboundBucket.tryTake 1 now).1 = true :=
    (TokenBucket.tryTake_eq_true_iff _ _ _).2 hp.token
  have hcool : ((self.afterTake now).cooldownAllows ctx now).1 = true :=
    (cooldownAllows_eq_true_iff _ _ _).2
      ⟨hp.cooldown.user, hp.cooldown.channel, hp.cooldown.guild, hp.cooldown.globally⟩
  rw [finalize_eq]
  simp [hc, hp.breaker, ht, hp.actions, hcool]

end Finalize

/-! ### Decisions -/

section Decide

variable [F64 F] {nfkc : Text → Text} {self : TrustedCore F σ} {ctx : MessageContext}
  {content : Text} {now : Instant} {order : IterOrder UInt64 Instant}

omit [F64 F] in
theorem screened_iff (self : TrustedCore F σ) (ctx : MessageContext) (now : Instant) :
    self.screened ctx now = true ↔ self.effectiveMode now ≠ .fullDisable ∧
      ctx.authorIsBot = false ∧ self.allowGuild ctx.guildId = true ∧
        self.allowChannel ctx.channelId = true := by
  unfold screened
  simp only [Bool.and_eq_true, bne_iff_ne, ne_eq, Bool.not_eq_true', and_assoc]

/-- A decision, with the guards before the duplicate guard taken together. -/
theorem decideMessage_eq (nfkc : Text → Text) (self : TrustedCore F σ) (ctx : MessageContext)
    (content : Text) (now : Instant) (order : IterOrder UInt64 Instant) :
    self.decideMessage nfkc ctx content now order =
      if !self.screened ctx now then
        (self.recomputeMode now).2.dropMessage (self.effectiveMode now) .noop .none
          (self.screenReason ctx now)
      else
        let marked : TrustedCore F σ := { (self.recomputeMode now).2 with
          duplicateGuard := (self.duplicateGuard.isDuplicateAndMark ctx.messageId now order).2 }
        if (self.duplicateGuard.isDuplicateAndMark ctx.messageId now order).1 then
          ({ marked with metrics := { marked.metrics with
              duplicateSuppressedTotal := saturatingInc marked.metrics.duplicateSuppressedTotal } } :
            TrustedCore F σ).dropMessage (self.effectiveMode now) .noop .none .duplicate
        else
          let suspicion := classifySuspiciousInput nfkc content self.suspiciousCfg
          let detected : TrustedCore F σ := { marked with
            lastDetection := some (self.detector content) }
          if suspicion = .hard then
            detected.finalize ctx .suspiciousInput suspicion (self.effectiveMode now) now
              (some (self.detector content))
          else
            let asked := detected.askAnalyzer (request content (self.detector content)) now
            asked.2.finalize ctx asked.1 suspicion (self.effectiveMode now) now
              (some (self.detector content)) := by
  obtain ⟨mode, metrics, hmode⟩ := self.recomputeMode_eq now
  unfold decideMessage
  simp only [hmode]
  cases hscreen : self.screened ctx now with
  | true =>
    obtain ⟨h₁, h₂, h₃, h₄⟩ := (screened_iff self ctx now).1 hscreen
    have h₃' : ¬ (!self.allowGuild ctx.guildId) = true := by simp [h₃]
    have h₄' : ¬ (!self.allowChannel ctx.channelId) = true := by simp [h₄]
    rw [if_neg h₁, if_neg (by simp [h₂])]
    exact (if_neg h₃').trans (if_neg h₄')
  | false =>
    have hnot : ¬ (self.effectiveMode now ≠ .fullDisable ∧ ctx.authorIsBot = false ∧
        self.allowGuild ctx.guildId = true ∧ self.allowChannel ctx.channelId = true) := by
      rw [← screened_iff, hscreen]
      exact Bool.false_ne_true
    unfold screenReason
    simp only [Bool.not_false, if_true]
    by_cases h₁ : self.effectiveMode now = .fullDisable
    · rw [if_pos h₁, if_pos h₁]
    · rw [if_neg h₁, if_neg h₁]
      by_cases h₂ : ctx.authorIsBot = true
      · rw [if_pos h₂, if_pos h₂]
      · rw [if_neg h₂, if_neg h₂]
        by_cases h₃ : (!self.allowGuild ctx.guildId) = true
        · rw [if_pos h₃]
          exact if_pos h₃
        · -- the channel is the only guard left
          have h₄ : (!self.allowChannel ctx.channelId) = true := by
            rw [Bool.not_eq_true', ← Bool.not_eq_true]
            intro hchannel
            exact hnot ⟨h₁, by simpa using h₂, by simpa using h₃, hchannel⟩
          rw [if_neg h₃]
          exact (if_neg h₃).trans (if_pos h₄)

/-- A decision on a message that the first guards stop. -/
theorem decideMessage_of_not_screened (h : self.screened ctx now = false) :
    ∃ mode metrics, self.decideMessage nfkc ctx content now order =
      (⟨.noop, self.effectiveMode now, .noop, .none, some (self.screenReason ctx now)⟩,
        (self.trimSandboxFailures now).withBooks mode metrics) := by
  obtain ⟨mode, metrics, hmode⟩ := self.recomputeMode_eq now
  rw [decideMessage_eq, h, hmode]
  exact ⟨mode, _, rfl⟩

/-- A decision on a message that the first guards let through. -/
theorem decideMessage_of_screened (h : self.screened ctx now = true) :
    ∃ mode metrics, self.decideMessage nfkc ctx content now order =
      if (self.duplicateGuard.isDuplicateAndMark ctx.messageId now order).1 then
        (⟨.noop, self.effectiveMode now, .noop, .none, some .duplicate⟩,
          (self.marked ctx now order).withBooks mode metrics)
      else
        ((self.asked nfkc ctx content now order).withBooks mode metrics).finalize ctx
          (self.proposalFor nfkc content)
          (classifySuspiciousInput nfkc content self.suspiciousCfg) (self.effectiveMode now) now
          (some (self.detector content)) := by
  obtain ⟨mode, metrics, hmode⟩ := self.recomputeMode_eq now
  rw [decideMessage_eq, h, hmode]
  simp only [Bool.not_true, Bool.false_eq_true, if_false]
  cases (self.duplicateGuard.isDuplicateAndMark ctx.messageId now order).1 with
  | true => exact ⟨mode, _, rfl⟩
  | false =>
    simp only [Bool.false_eq_true, if_false]
    by_cases hhard : classifySuspiciousInput nfkc content self.suspiciousCfg = .hard
    · -- the analyzer is not asked
      refine ⟨mode, metrics, ?_⟩
      rw [if_pos hhard]
      unfold asked analyzerStateAfter failuresAfter proposalFor
      simp only [if_pos hhard]
      rfl
    · obtain ⟨metrics', hask⟩ := askAnalyzer_eq
        ({ (self.marked ctx now order).withBooks mode metrics with
          lastDetection := some (self.detector content) } : TrustedCore F σ)
        (request content (self.detector content)) now
      refine ⟨mode, metrics', ?_⟩
      rw [if_neg hhard]
      refine (congrArg (fun asked : ActionProposal × TrustedCore F σ =>
        asked.2.finalize ctx asked.1 (classifySuspiciousInput nfkc content self.suspiciousCfg)
          (self.effectiveMode now) now (some (self.detector content))) hask).trans ?_
      unfold asked analyzerStateAfter failuresAfter proposalFor
      simp only [if_neg hhard]
      rfl

omit [F64 F] in
theorem admitted_iff (self : TrustedCore F σ) (ctx : MessageContext) (now : Instant)
    (order : IterOrder UInt64 Instant) :
    self.Admitted ctx now ↔ self.screened ctx now = true ∧
      (self.duplicateGuard.isDuplicateAndMark ctx.messageId now order).1 = false := by
  have hlive := self.duplicateGuard.isDuplicateAndMark_eq_true_iff ctx.messageId now order
  rw [screened_iff, ← Bool.not_eq_true (DuplicateGuard.isDuplicateAndMark _ _ _ _).1, hlive]
  constructor
  · intro h
    exact ⟨⟨h.mode, h.author, h.guild, h.channel⟩, h.fresh⟩
  · rintro ⟨⟨hmode, hauthor, hguild, hchannel⟩, hfresh⟩
    exact ⟨hmode, hauthor, hguild, hchannel, hfresh⟩

/-- A decision either stops at a guard, or ends with `finalize` on the proposal for the message, in
a state with the limits of the first one. -/
theorem decideMessage_cases (nfkc : Text → Text) (self : TrustedCore F σ) (ctx : MessageContext)
    (content : Text) (now : Instant) (order : IterOrder UInt64 Instant) :
    (¬ self.Admitted ctx now ∧ ∃ (core : TrustedCore F σ) (reason : SuppressReason),
        core.SameLimits self ∧ self.decideMessage nfkc ctx content now order =
          (⟨.noop, self.effectiveMode now, .noop, .none, some reason⟩, core)) ∨
      (self.Admitted ctx now ∧ ∃ core : TrustedCore F σ, core.SameLimits self ∧
        core.sandboxFailures = self.failuresAfter nfkc content now ∧
        self.decideMessage nfkc ctx content now order =
          core.finalize ctx (self.proposalFor nfkc content)
            (classifySuspiciousInput nfkc content self.suspiciousCfg) (self.effectiveMode now) now
            (some (self.detector content))) := by
  rw [admitted_iff self ctx now order]
  cases hscreen : self.screened ctx now with
  | false =>
    obtain ⟨mode, metrics, heq⟩ := @decideMessage_of_not_screened _ _ _ nfkc _ _ content _ order hscreen
    refine Or.inl ⟨fun h => Bool.false_ne_true h.1,
      (self.trimSandboxFailures now).withBooks mode metrics, _, ?_, heq⟩
    exact ⟨rfl, rfl, rfl, rfl, rfl, rfl, rfl, rfl, rfl, rfl⟩
  | true =>
    obtain ⟨mode, metrics, heq⟩ := @decideMessage_of_screened _ _ _ nfkc _ _ content _ order hscreen
    cases hdup : (self.duplicateGuard.isDuplicateAndMark ctx.messageId now order).1 with
    | true =>
      rw [hdup] at heq
      refine Or.inl ⟨fun h => Bool.false_ne_true h.2.symm,
        (self.marked ctx now order).withBooks mode metrics, _, ?_, heq⟩
      exact ⟨rfl, rfl, rfl, rfl, rfl, rfl, rfl, rfl, rfl, rfl⟩
    | false =>
      rw [hdup] at heq
      refine Or.inr ⟨⟨rfl, rfl⟩, (self.asked nfkc ctx content now order).withBooks mode metrics, ?_,
        rfl, heq⟩
      exact ⟨rfl, rfl, rfl, rfl, rfl, rfl, rfl, rfl, rfl, rfl⟩

/-- **Every outbound action is the response, admitted and past every limiter.** -/
theorem decideMessage_ne_noop
    (h : (self.decideMessage nfkc ctx content now order).1.action ≠ .noop) :
    self.Admitted ctx now ∧ self.Passes ctx now ∧ self.response nfkc content now ≠ .noop ∧
      (self.decideMessage nfkc ctx content now order).1 =
        ⟨self.response nfkc content now, self.effectiveMode now, self.proposalFor nfkc content,
          classifySuspiciousInput nfkc content self.suspiciousCfg, none⟩ ∧
      (self.decideMessage nfkc ctx content now order).2.outboundBucket =
        (self.outboundBucket.tryTake 1 now).2 := by
  rcases decideMessage_cases nfkc self ctx content now order with
    ⟨-, core, reason, -, heq⟩ | ⟨hadm, core, hcore, -, heq⟩
  · rw [heq] at h
    exact absurd rfl h
  · rw [heq] at h ⊢
    obtain ⟨hc, hp, hd, hb⟩ := finalize_ne_noop h
    rw [hcore.compiled_eq] at hc hd
    exact ⟨hadm, hcore.symm.passes hp, hc, hd, by rw [hb, hcore.outboundBucket]⟩

/-- A text that is sent is the response. -/
theorem decideMessage_sendMessage {text : Text}
    (h : (self.decideMessage nfkc ctx content now order).1.action = .sendMessage text) :
    self.Admitted ctx now ∧ self.Passes ctx now ∧
      self.response nfkc content now = .sendMessage text := by
  have hne : (self.decideMessage nfkc ctx content now order).1.action ≠ .noop := by
    rw [h]
    nofun
  obtain ⟨hadm, hpass, -, hdecision, -⟩ := decideMessage_ne_noop hne
  rw [hdecision] at h
  exact ⟨hadm, hpass, h⟩

/-- The decision on an admitted message reports the proposal for it. -/
theorem Admitted.proposal_eq (ha : self.Admitted ctx now) :
    (self.decideMessage nfkc ctx content now order).1.proposal = self.proposalFor nfkc content := by
  rcases decideMessage_cases nfkc self ctx content now order with
    ⟨hn, -⟩ | ⟨-, core, -, -, heq⟩
  · exact absurd ha hn
  · rw [heq, finalize_proposal]

/-- The decision on an admitted message records a failure of the analyzer, if it fails. -/
theorem Admitted.failures_eq (ha : self.Admitted ctx now) :
    (self.decideMessage nfkc ctx content now order).2.sandboxFailures =
      self.failuresAfter nfkc content now := by
  rcases decideMessage_cases nfkc self ctx content now order with
    ⟨hn, -⟩ | ⟨-, core, -, hfail, heq⟩
  · exact absurd ha hn
  · rw [heq, finalize_failures, hfail]

/-- Past every guard and every limiter the action is the response. -/
theorem decideMessage_eq_response (ha : self.Admitted ctx now) (hp : self.Passes ctx now) :
    (self.decideMessage nfkc ctx content now order).1.action = self.response nfkc content now := by
  by_cases hr : self.response nfkc content now = .noop
  · by_contra hne
    rw [hr] at hne
    obtain ⟨-, -, hresp, -⟩ := decideMessage_ne_noop hne
    exact hresp hr
  · rcases decideMessage_cases nfkc self ctx content now order with
      ⟨hn, -⟩ | ⟨-, core, hcore, -, heq⟩
    · exact absurd ha hn
    · have hc := hcore.compiled_eq (self.proposalFor nfkc content)
        (classifySuspiciousInput nfkc content self.suspiciousCfg) (self.effectiveMode now)
        (some (self.detector content))
      rw [heq, finalize_of_passes (by rw [hc]; exact hr) (hcore.passes hp), hc]
      rfl

/-- Nothing is done exactly where a guard or a limiter stops the message, or where the response is
to do nothing. -/
theorem decideMessage_noop_iff :
    (self.decideMessage nfkc ctx content now order).1.action = .noop ↔
      ¬ (self.Admitted ctx now ∧ self.Passes ctx now ∧ self.response nfkc content now ≠ .noop) := by
  constructor
  · rintro h ⟨ha, hp, hr⟩
    exact hr ((decideMessage_eq_response ha hp).symm.trans h)
  · intro h
    by_contra hne
    obtain ⟨ha, hp, hr, -⟩ := decideMessage_ne_noop hne
    exact h ⟨ha, hp, hr⟩

end Decide

end TrustedCore

end OoBot
