import OoBot.Lib.Runs
import OoBot.Security.Fresh

/-!
# Complete mediation

Runs of the trusted core: any operations in any order, with an analyzer and a detector that answer
as they like.  Whenever a decision of such a run is outbound, every guard and every limiter has let
it pass (`mediation`).
-/

namespace OoBot

namespace TrustedCore

variable {F σ : Type}

/-- The operations on a core. -/
inductive Op
  | decideMessage (ctx : MessageContext) (content : Text) (now : Instant)
      (order : IterOrder UInt64 Instant)
  | recordHttpStatus (status : ℕ) (now : Instant)
  | setModeOverride (mode : Option RuntimeMode)
  | setEmergencyKillSwitch (enabled : Bool)
  | setAccessLists (allowGuildIds denyGuildIds allowChannelIds denyChannelIds : List UInt64)
  | setSuspiciousThresholds (softChars hardChars repetition : ℕ)
  | resetSuspiciousThresholds
  | updateSessionBudget (total remaining resetAfterSecs : ℕ)
  | recordReconnectAttempt
  | recordResumeFailure

/-- The state after an operation. -/
def step [F64 F] (nfkc : Text → Text) (self : TrustedCore F σ) : Op → TrustedCore F σ
  | .decideMessage ctx content now order => (self.decideMessage nfkc ctx content now order).2
  | .recordHttpStatus status now => self.recordHttpStatus status now
  | .setModeOverride mode => self.setModeOverride mode
  | .setEmergencyKillSwitch enabled => self.setEmergencyKillSwitch enabled
  | .setAccessLists ag dg ac dc => self.setAccessLists ag dg ac dc
  | .setSuspiciousThresholds soft hard rep => self.setSuspiciousThresholds soft hard rep
  | .resetSuspiciousThresholds => self.resetSuspiciousThresholds
  | .updateSessionBudget total remaining reset => self.updateSessionBudget total remaining reset
  | .recordReconnectAttempt => self.recordReconnectAttempt
  | .recordResumeFailure => self.recordResumeFailure

/-! ### What no operation changes -/

/-- The parts of a core that are fixed when it is built. -/
structure Fixed (σ : Type) where
  analyzer : ProposalAnalyzer σ
  detector : MessageDetector
  botConfig : BotConfig
  maxSendChars : ℕ
  maxActionsPerMessage : ℕ

/-- The fixed parts of a core. -/
def fixed (self : TrustedCore F σ) : Fixed σ :=
  ⟨self.analyzer, self.detector, self.botConfig, self.runtime.maxSendChars,
    self.runtime.maxActionsPerMessage⟩

theorem fixed_finalize [F64 F] (self : TrustedCore F σ) (ctx : MessageContext)
    (proposal : ActionProposal) (suspicion : SuspicionLevel) (mode : RuntimeMode) (now : Instant)
    (detection : Option DetectionReport) :
    (self.finalize ctx proposal suspicion mode now detection).2.fixed = self.fixed := by
  rw [finalize_frame]
  rfl

theorem fixed_decideMessage [F64 F] (nfkc : Text → Text) (self : TrustedCore F σ)
    (ctx : MessageContext) (content : Text) (now : Instant) (order : IterOrder UInt64 Instant) :
    (self.decideMessage nfkc ctx content now order).2.fixed = self.fixed := by
  have hsame : ∀ core : TrustedCore F σ, core.SameLimits self → core.fixed = self.fixed := by
    intro core h
    unfold fixed
    rw [h.analyzer, h.detector, h.botConfig, h.runtime]
  rcases decideMessage_cases nfkc self ctx content now order with
    ⟨-, core, reason, hcore, heq⟩ | ⟨-, core, hcore, -, heq⟩
  · rw [heq]
    exact hsame core hcore
  · rw [heq, fixed_finalize]
    exact hsame core hcore

/-- A decision leaves the configuration as it is. -/
theorem decideMessage_runtime [F64 F] (nfkc : Text → Text) (self : TrustedCore F σ)
    (ctx : MessageContext) (content : Text) (now : Instant) (order : IterOrder UInt64 Instant) :
    (self.decideMessage nfkc ctx content now order).2.runtime = self.runtime := by
  rcases decideMessage_cases nfkc self ctx content now order with
    ⟨-, core, reason, hcore, heq⟩ | ⟨-, core, hcore, -, heq⟩
  · rw [heq]
    exact hcore.runtime
  · rw [heq, finalize_frame]
    exact hcore.runtime

theorem fixed_step [F64 F] (nfkc : Text → Text) (self : TrustedCore F σ) (op : Op) :
    (self.step nfkc op).fixed = self.fixed := by
  cases op with
  | decideMessage ctx content now order => exact fixed_decideMessage nfkc self ctx content now order
  | _ => rfl

/-- The state of a core after operations on a fresh one. -/
def reached [F64 F] (nfkc : Text → Text) (analyzer : ProposalAnalyzer σ) (analyzerState : σ)
    (detector : MessageDetector) (botConfig : BotConfig) (runtime : RuntimeProtectionConfig F)
    (start : Instant) (ops : List Op) : TrustedCore F σ :=
  Runs.run (step nfkc)
    (newWithDetector analyzer analyzerState detector botConfig runtime start) ops

theorem fixed_reached [F64 F] (nfkc : Text → Text) (analyzer : ProposalAnalyzer σ)
    (analyzerState : σ) (detector : MessageDetector) (botConfig : BotConfig)
    (runtime : RuntimeProtectionConfig F) (start : Instant) (ops : List Op) :
    (reached nfkc analyzer analyzerState detector botConfig runtime start ops).fixed =
      ⟨analyzer, detector, botConfig, runtime.maxSendChars, runtime.maxActionsPerMessage⟩ :=
  Runs.run_eq (fixed_step nfkc) _ ops

/-! ### What holds when a decision is outbound -/

/-- Everything that an outbound decision `d` on the message `ctx`, `content` is subject to, in the
state `core` at the instant `now`. -/
structure Mediated [F64 F] (nfkc : Text → Text) (botConfig : BotConfig)
    (runtime : RuntimeProtectionConfig F) (core : TrustedCore F σ) (ctx : MessageContext)
    (content : Text) (now : Instant) (d : ActionDecision) (next : TrustedCore F σ) : Prop where
  killSwitchOff : core.runtime.emergencyKillSwitch = false
  modeRecomputed : d.mode = (core.recomputeMode now).1
  modeOutbound : d.mode = .normal ∨ d.mode = .reactOnly
  policyOutbound : botConfig.actionPolicy ≠ .noOutbound
  suspicionClassified : d.suspicion = classifySuspiciousInput nfkc content core.suspiciousCfg
  notHard : d.suspicion ≠ .hard
  reaction : d.mode = .reactOnly ∨ botConfig.actionPolicy = .reactOnly ∨ d.suspicion = .soft →
    d.action = .react botConfig.reaction.emojiId botConfig.reaction.emojiName
      botConfig.reaction.animated
  notBot : ctx.authorIsBot = false
  guildAllowed : ∀ g, ctx.guildId = some g → g ∉ core.runtime.denyGuildIds ∧
    (core.runtime.allowGuildIds = [] ∨ g ∈ core.runtime.allowGuildIds)
  channelAllowed : ctx.channelId ∉ core.runtime.denyChannelIds ∧
    (core.runtime.allowChannelIds = [] ∨ ctx.channelId ∈ core.runtime.allowChannelIds)
  notDuplicate : ¬ ∃ ts, core.duplicateGuard.seen.get? ctx.messageId = some ts ∧
    durationSince now ts ≤ core.duplicateGuard.ttl
  breakerClosed : ∀ u, core.breaker.openUntil = some u → u ≤ now
  tokenHeld : F64.le (F64.ofNat 1) (core.outboundBucket.refill now).tokens = true
  tokenTaken : next.outboundBucket.tokens =
    F64.sub (core.outboundBucket.refill now).tokens (F64.ofNat 1)
  actionsAllowed : runtime.maxActionsPerMessage ≠ 0
  userCooled : ∀ t, core.userCooldown.nextAllowed.get? ctx.authorId = some t → t ≤ now
  channelCooled : ∀ t, core.channelCooldown.nextAllowed.get? ctx.channelId = some t → t ≤ now
  guildCooled : ∀ g t, ctx.guildId = some g →
    core.guildCooldown.nextAllowed.get? g = some t → t ≤ now
  globalCooled : ∀ t, core.globalCooldown.nextAllowed.get? 0 = some t → t ≤ now
  deliverable : Deliverable runtime.maxSendChars d.action

theorem not_cooling_iff (m : CooldownMap) (key : UInt64) (now : Instant) :
    m.isCooling key now = false ↔ ∀ t, m.nextAllowed.get? key = some t → t ≤ now := by
  unfold CooldownMap.isCooling
  cases m.nextAllowed.get? key with
  | none => simp
  | some t => simp

theorem breaker_closed_iff (b : HttpCircuitBreaker) (now : Instant) :
    b.isOpen now = false ↔ ∀ u, b.openUntil = some u → u ≤ now := by
  unfold HttpCircuitBreaker.isOpen
  cases b.openUntil with
  | none => simp
  | some u => simp

theorem allowed_iff (deny allow : List UInt64) (x : UInt64) :
    (if deny.contains x then false else if allow.isEmpty then true else allow.contains x) = true ↔
      x ∉ deny ∧ (allow = [] ∨ x ∈ allow) := by
  split_ifs with hd ha
  · simp only [List.contains_iff_mem] at hd
    simp [hd]
  · simp only [List.contains_iff_mem, List.isEmpty_iff] at hd ha
    simp [hd, ha]
  · simp only [List.contains_iff_mem, List.isEmpty_iff] at hd ha
    simp [hd, ha]

theorem effectiveMode_of_killSwitch {core : TrustedCore F σ} (now : Instant)
    (h : core.runtime.emergencyKillSwitch = true) : core.effectiveMode now = .fullDisable := by
  have h' : (core.trimSandboxFailures now).runtime.emergencyKillSwitch = true := h
  unfold effectiveMode targetMode
  rw [if_pos h']

/-- The response to a message of hard suspicion is to do nothing. -/
theorem response_of_hard {nfkc : Text → Text} {core : TrustedCore F σ} {content : Text}
    (now : Instant) (h : classifySuspiciousInput nfkc content core.suspiciousCfg = .hard) :
    core.response nfkc content now = .noop := by
  have hp : core.proposalFor nfkc content = .suspiciousInput := if_pos h
  unfold response compiled compileResponseFromDetection
  rw [hp, compileResponse_eq]
  exact release_noop _ _ _ _

/-- What `Mediated` says, for a core with the given fixed parts. -/
theorem mediated_of_ne_noop [F64 F] {nfkc : Text → Text} {core : TrustedCore F σ}
    {botConfig : BotConfig} {runtime : RuntimeProtectionConfig F} {ctx : MessageContext}
    {content : Text} {now : Instant} {order : IterOrder UInt64 Instant}
    (hbot : core.botConfig = botConfig) (hmax : core.runtime.maxSendChars = runtime.maxSendChars)
    (hact : core.runtime.maxActionsPerMessage = runtime.maxActionsPerMessage)
    (h : (core.decideMessage nfkc ctx content now order).1.action ≠ .noop) :
    Mediated nfkc botConfig runtime core ctx content now
      (core.decideMessage nfkc ctx content now order).1
      (core.decideMessage nfkc ctx content now order).2 := by
  obtain ⟨hadm, hpass, hresp, hd, hbucket⟩ := decideMessage_ne_noop h
  obtain ⟨hmode, hpolicy, hreact⟩ := compileResponse_ne_noop hresp
  obtain ⟨mode, metrics, hrec⟩ := core.recomputeMode_eq now
  have htaken : (core.outboundBucket.tryTake 1 now).1 = true :=
    (TokenBucket.tryTake_eq_true_iff _ _ _).2 hpass.token
  subst hbot
  rw [hd]
  refine
    { killSwitchOff := ?_
      modeRecomputed := by rw [hrec]
      modeOutbound := hmode
      policyOutbound := hpolicy
      suspicionClassified := rfl
      notHard := fun hs => hresp (response_of_hard now hs)
      reaction := hreact
      notBot := hadm.author
      guildAllowed := ?_
      channelAllowed := (allowed_iff _ _ _).1 hadm.channel
      notDuplicate := hadm.fresh
      breakerClosed := (breaker_closed_iff _ _).1 hpass.breaker
      tokenHeld := hpass.token
      tokenTaken := by rw [hbucket]; exact TokenBucket.tryTake_tokens htaken
      actionsAllowed := by rw [← hact]; exact hpass.actions
      userCooled := (not_cooling_iff _ _ _).1 hpass.cooldown.user
      channelCooled := (not_cooling_iff _ _ _).1 hpass.cooldown.channel
      guildCooled := fun g t hg => (not_cooling_iff _ _ _).1 (hpass.cooldown.guild g hg) t
      globalCooled := (not_cooling_iff _ _ _).1 hpass.cooldown.globally
      deliverable := by rw [← hmax]; exact compiled_deliverable hresp }
  · by_contra hkill
    exact hadm.mode (effectiveMode_of_killSwitch now (by simpa using hkill))
  · intro g hg
    have hguild := hadm.guild
    rw [hg] at hguild
    exact (allowed_iff _ _ _).1 hguild

/-- **Complete mediation.**  After any run, with any analyzer and any detector, an outbound decision
has passed every guard and every limiter. -/
theorem mediation [F64 F] (nfkc : Text → Text) (analyzer : ProposalAnalyzer σ) (analyzerState : σ)
    (detector : MessageDetector) (botConfig : BotConfig) (runtime : RuntimeProtectionConfig F)
    (start : Instant) (ops : List Op) (ctx : MessageContext) (content : Text) (now : Instant)
    (order : IterOrder UInt64 Instant)
    (h : ((reached nfkc analyzer analyzerState detector botConfig runtime start ops).decideMessage
      nfkc ctx content now order).1.action ≠ .noop) :
    Mediated nfkc botConfig runtime
      (reached nfkc analyzer analyzerState detector botConfig runtime start ops) ctx content now
      ((reached nfkc analyzer analyzerState detector botConfig runtime start ops).decideMessage
        nfkc ctx content now order).1
      ((reached nfkc analyzer analyzerState detector botConfig runtime start ops).decideMessage
        nfkc ctx content now order).2 := by
  have hfix := fixed_reached nfkc analyzer analyzerState detector botConfig runtime start ops
  exact mediated_of_ne_noop (congrArg Fixed.botConfig hfix) (congrArg Fixed.maxSendChars hfix)
    (congrArg Fixed.maxActionsPerMessage hfix) h

/-- A core that is asked about one message and told of one refused request; its analyzer always asks
for the reaction. -/
def eagerCore : TrustedCore ℚ Unit :=
  reached id (fun _ s => (.ok .reactOnce, s)) () (fun _ => ⟨.morphologicalReading, [], [], 1, 0, 1,
    false, 0⟩) canonicalBotConfig (defaultRuntimeProtectionConfig ℚ) 0
    [.decideMessage firstMessage "oo".toList 0 (.listed _ _), .recordHttpStatus 429 5]

/-- A second later it reacts to a message of the same author. -/
theorem mediation_eagerCore :
    Mediated id canonicalBotConfig (defaultRuntimeProtectionConfig ℚ) eagerCore
      { firstMessage with messageId := 9 } "oo".toList 1000000000
      (eagerCore.decideMessage id { firstMessage with messageId := 9 } "oo".toList 1000000000
        (.listed _ _)).1
      (eagerCore.decideMessage id { firstMessage with messageId := 9 } "oo".toList 1000000000
        (.listed _ _)).2 :=
  mediation id _ () _ canonicalBotConfig (defaultRuntimeProtectionConfig ℚ) 0 _ _ _ _ _
    (by decide +kernel)

end TrustedCore

end OoBot
