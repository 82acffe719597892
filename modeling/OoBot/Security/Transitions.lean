import OoBot.Security.Mediation

/-!
# What a decision changes

The mode and the metrics are books that the core keeps: no decision reads them.  `outcome` is a
decision without its books (`decideMessage_eq_outcome`), and from it every limiter can be read off:
the duplicate guard, the bucket, the four cooldowns and the last detection.

`Decided` is what a run shows of a decision.
-/

namespace OoBot

/-- `drop` without its books. -/
def dropped (mode : RuntimeMode) (proposal : ActionProposal) (suspicion : SuspicionLevel)
    (reason : SuppressReason) : ActionDecision :=
  ⟨.noop, mode, proposal, suspicion, some reason⟩

namespace TrustedCore

variable {F σ : Type}

/-- The guards before the duplicate guard have reasons of their own. -/
theorem screenReason_ne (self : TrustedCore F σ) (ctx : MessageContext) (now : Instant) :
    self.screenReason ctx now ≠ .duplicate ∧ self.screenReason ctx now ≠ .cooldown := by
  unfold screenReason
  split_ifs <;> decide

/-! ### Decisions without books -/

section Settle

variable [F64 F]

/-- `finalize` without its books. -/
def settle (self : TrustedCore F σ) (ctx : MessageContext) (proposal : ActionProposal)
    (suspicion : SuspicionLevel) (mode : RuntimeMode) (now : Instant)
    (detection : Option DetectionReport) : ActionDecision × TrustedCore F σ :=
  if self.compiled proposal suspicion mode detection = .noop then
    if mode ≠ .normal ∧ isOutboundProposal proposal then
      (dropped mode proposal suspicion .modeRestricted, self)
    else if proposal = .suspiciousInput then (dropped mode proposal suspicion .suspicious, self)
    else if isOutboundProposal proposal then (dropped mode proposal suspicion .invalidAction, self)
    else (⟨.noop, mode, proposal, suspicion, none⟩, self)
  else if self.breaker.isOpen now then (dropped mode proposal suspicion .circuitOpen, self)
  else if !(self.outboundBucket.tryTake 1 now).1 then
    (dropped mode proposal suspicion .rateLimit, self.afterTake now)
  else if self.runtime.maxActionsPerMessage = 0 then
    (dropped mode proposal suspicion .invalidAction, self.afterTake now)
  else if !((self.afterTake now).cooldownAllows ctx now).1 then
    (dropped mode proposal suspicion .cooldown, ((self.afterTake now).cooldownAllows ctx now).2)
  else
    (⟨self.compiled proposal suspicion mode detection, mode, proposal, suspicion, none⟩,
      ((self.afterTake now).cooldownAllows ctx now).2)

/-- `decide_message` without its books. -/
def outcome (nfkc : Text → Text) (self : TrustedCore F σ) (ctx : MessageContext) (content : Text)
    (now : Instant) (order : IterOrder UInt64 Instant) : ActionDecision × TrustedCore F σ :=
  if !self.screened ctx now then
    (dropped (self.effectiveMode now) .noop .none (self.screenReason ctx now),
      self.trimSandboxFailures now)
  else if (self.duplicateGuard.isDuplicateAndMark ctx.messageId now order).1 then
    (dropped (self.effectiveMode now) .noop .none .duplicate, self.marked ctx now order)
  else
    (self.asked nfkc ctx content now order).settle ctx (self.proposalFor nfkc content)
      (classifySuspiciousInput nfkc content self.suspiciousCfg) (self.effectiveMode now) now
      (some (self.detector content))

variable {self : TrustedCore F σ} {ctx : MessageContext} {now : Instant}

omit [F64 F] in
/-- The cooldown step does not read the books. -/
theorem cooldownAllows_withBooks (mode : ModeState) (metrics : RuntimeMetrics) :
    (self.withBooks mode metrics).cooldownAllows ctx now =
      ((self.cooldownAllows ctx now).1, (self.cooldownAllows ctx now).2.withBooks mode metrics) := by
  unfold cooldownAllows withBooks
  cases ctx.guildId <;> simp only <;> split_ifs <;> rfl

section Finalize

variable {proposal : ActionProposal} {suspicion : SuspicionLevel} {mode : RuntimeMode}
  {detection : Option DetectionReport}

/-- The last step does what `settle` says, and keeps books. -/
theorem finalize_eq_settle :
    ∃ modeState metrics, self.finalize ctx proposal suspicion mode now detection =
      ((self.settle ctx proposal suspicion mode now detection).1,
        (self.settle ctx proposal suspicion mode now detection).2.withBooks modeState metrics) := by
  rw [finalize_eq]
  unfold settle
  split_ifs <;> exact ⟨_, _, rfl⟩

/-- The last step changes the bucket and the cooldowns only. -/
theorem settle_frame :
    (self.settle ctx proposal suspicion mode now detection).2 =
      { self with
        outboundBucket :=
          (self.settle ctx proposal suspicion mode now detection).2.outboundBucket
        userCooldown := (self.settle ctx proposal suspicion mode now detection).2.userCooldown
        channelCooldown :=
          (self.settle ctx proposal suspicion mode now detection).2.channelCooldown
        guildCooldown := (self.settle ctx proposal suspicion mode now detection).2.guildCooldown
        globalCooldown :=
          (self.settle ctx proposal suspicion mode now detection).2.globalCooldown } := by
  have hcool := cooldownAllows_frame (self.afterTake now) ctx now
  unfold settle
  generalize (self.afterTake now).cooldownAllows ctx now = checked at hcool ⊢
  split_ifs
  all_goals try rfl
  all_goals
    simp only
    rw [hcool]

theorem settle_withBooks (modeState : ModeState) (metrics : RuntimeMetrics) :
    (self.withBooks modeState metrics).settle ctx proposal suspicion mode now detection =
      ((self.settle ctx proposal suspicion mode now detection).1,
        (self.settle ctx proposal suspicion mode now detection).2.withBooks modeState metrics) := by
  have htake : (self.withBooks modeState metrics).afterTake now =
      (self.afterTake now).withBooks modeState metrics := rfl
  have hcompiled : (self.withBooks modeState metrics).compiled proposal suspicion mode detection =
      self.compiled proposal suspicion mode detection := rfl
  have hrest : (self.withBooks modeState metrics).breaker = self.breaker ∧
      (self.withBooks modeState metrics).outboundBucket = self.outboundBucket ∧
      (self.withBooks modeState metrics).runtime = self.runtime := ⟨rfl, rfl, rfl⟩
  unfold settle
  rw [hcompiled, htake, hrest.1, hrest.2.1, hrest.2.2, cooldownAllows_withBooks]
  split_ifs <;> rfl

end Finalize

variable {nfkc : Text → Text} {content : Text} {order : IterOrder UInt64 Instant}

/-- A decision does what `outcome` says, and keeps books. -/
theorem decideMessage_eq_outcome (nfkc : Text → Text) (self : TrustedCore F σ)
    (ctx : MessageContext) (content : Text) (now : Instant) (order : IterOrder UInt64 Instant) :
    ∃ mode metrics, self.decideMessage nfkc ctx content now order =
      ((self.outcome nfkc ctx content now order).1,
        (self.outcome nfkc ctx content now order).2.withBooks mode metrics) := by
  unfold outcome
  cases hscreen : self.screened ctx now with
  | false => exact decideMessage_of_not_screened hscreen
  | true =>
    obtain ⟨mode, metrics, heq⟩ :=
      @decideMessage_of_screened _ _ _ nfkc _ _ content _ order hscreen
    cases hdup : (self.duplicateGuard.isDuplicateAndMark ctx.messageId now order).1 with
    | true =>
      rw [hdup] at heq
      exact ⟨mode, metrics, heq⟩
    | false =>
      rw [hdup] at heq
      obtain ⟨mode', metrics', hfin⟩ := @finalize_eq_settle _ _ _
        ((self.asked nfkc ctx content now order).withBooks mode metrics) ctx now
        (self.proposalFor nfkc content) (classifySuspiciousInput nfkc content self.suspiciousCfg)
        (self.effectiveMode now) (some (self.detector content))
      refine ⟨mode', metrics', heq.trans (hfin.trans ?_)⟩
      rw [settle_withBooks]
      rfl

/-- What a decision comes to does not depend on the books. -/
theorem outcome_withBooks (mode : ModeState) (metrics : RuntimeMetrics) :
    (self.withBooks mode metrics).outcome nfkc ctx content now order =
      ((self.outcome nfkc ctx content now order).1,
        (self.outcome nfkc ctx content now order).2.withBooks mode metrics) := by
  have hasked : (self.withBooks mode metrics).asked nfkc ctx content now order =
      (self.asked nfkc ctx content now order).withBooks mode metrics := rfl
  have hscreened : (self.withBooks mode metrics).screened ctx now = self.screened ctx now := rfl
  have hguard : (self.withBooks mode metrics).duplicateGuard = self.duplicateGuard := rfl
  unfold outcome
  rw [hasked, settle_withBooks, hscreened, hguard]
  split_ifs <;> rfl

/-- A decision does with the duplicate guard what a call of the guard does, if it comes that far. -/
theorem outcome_duplicateGuard :
    (self.outcome nfkc ctx content now order).2.duplicateGuard =
      if self.screened ctx now then
        (self.duplicateGuard.isDuplicateAndMark ctx.messageId now order).2
      else self.duplicateGuard := by
  unfold outcome
  cases self.screened ctx now with
  | false => rfl
  | true =>
    simp only [Bool.not_true, Bool.false_eq_true, if_false, if_true]
    split_ifs
    · rfl
    · rw [settle_frame]
      rfl

/-- What neither the duplicate guard nor the limiters hold is written before the last step: by the
question to the analyzer, if the message is admitted. -/
theorem outcome_frame {β : Type*} (f : TrustedCore F σ → β)
    (hsettle : ∀ (core : TrustedCore F σ) (proposal : ActionProposal) (suspicion : SuspicionLevel)
      (mode : RuntimeMode) (detection : Option DetectionReport),
      f (core.settle ctx proposal suspicion mode now detection).2 = f core)
    (hmarked : f (self.marked ctx now order) = f (self.trimSandboxFailures now)) :
    f (self.outcome nfkc ctx content now order).2 =
      if self.screened ctx now &&
          !(self.duplicateGuard.isDuplicateAndMark ctx.messageId now order).1 then
        f (self.asked nfkc ctx content now order)
      else f (self.trimSandboxFailures now) := by
  unfold outcome
  cases self.screened ctx now with
  | false => rfl
  | true =>
    cases (self.duplicateGuard.isDuplicateAndMark ctx.messageId now order).1 with
    | true => exact hmarked
    | false => exact hsettle _ _ _ _ _

/-- The detection is replaced when the message is admitted. -/
theorem outcome_lastDetection :
    (self.outcome nfkc ctx content now order).2.lastDetection =
      if self.screened ctx now &&
          !(self.duplicateGuard.isDuplicateAndMark ctx.messageId now order).1 then
        some (self.detector content)
      else self.lastDetection :=
  outcome_frame (fun core => core.lastDetection) (fun _ _ _ _ _ => by rw [settle_frame]) rfl

end Settle

/-! ### The limiters of outbound actions -/

/-- The limiters that an outbound action goes through after the breaker. -/
structure Limits (F : Type) where
  bucket : TokenBucket F
  user : CooldownMap
  channel : CooldownMap
  guild : CooldownMap
  global : CooldownMap

/-- The limiters of a core. -/
def limits (self : TrustedCore F σ) : Limits F :=
  ⟨self.outboundBucket, self.userCooldown, self.channelCooldown, self.guildCooldown,
    self.globalCooldown⟩

/-- The guild of a message is marked. -/
def Limits.markGuild (l : Limits F) (ctx : MessageContext) (now : Instant) : Limits F :=
  match ctx.guildId with
  | some guildId => { l with guild := l.guild.mark guildId now }
  | none => l

/-- What a decision at `now` may do to the limiters, and whether it is outbound. -/
inductive LimitStep [F64 F] (ctx : MessageContext) (now : Instant) (l : Limits F) :
    Bool → Limits F → Prop
  | held : LimitStep ctx now l false l
  | spent : LimitStep ctx now l false { l with bucket := (l.bucket.tryTake 1 now).2 }
  | cooling : LimitStep ctx now l false
      ({ l with bucket := (l.bucket.tryTake 1 now).2 }.markGuild ctx now)
  | sent (granted : (l.bucket.tryTake 1 now).1 = true)
      (user : l.user.isCooling ctx.authorId now = false)
      (channel : l.channel.isCooling ctx.channelId now = false)
      (guild : ∀ g, ctx.guildId = some g → l.guild.isCooling g now = false)
      (global : l.global.isCooling 0 now = false) :
      LimitStep ctx now l true
        { l.markGuild ctx now with
          bucket := (l.bucket.tryTake 1 now).2
          user := l.user.mark ctx.authorId now
          channel := l.channel.mark ctx.channelId now
          global := l.global.mark 0 now }

/-- What the cooldown step leaves. -/
theorem cooldownAllows_limits (self : TrustedCore F σ) (ctx : MessageContext) (now : Instant) :
    ((self.cooldownAllows ctx now).1 = false →
        (self.cooldownAllows ctx now).2.limits = self.limits ∨
        (self.cooldownAllows ctx now).2.limits = self.limits.markGuild ctx now) ∧
      ((self.cooldownAllows ctx now).1 = true →
        (self.cooldownAllows ctx now).2.limits =
          { self.limits.markGuild ctx now with
            user := self.userCooldown.mark ctx.authorId now
            channel := self.channelCooldown.mark ctx.channelId now
            global := self.globalCooldown.mark 0 now }) := by
  unfold cooldownAllows Limits.markGuild
  cases ctx.guildId with
  | none =>
    simp only
    split_ifs <;> simp [limits]
  | some g =>
    simp only
    split_ifs <;> simp [limits]

/-- Every decision takes a step of the limiters. -/
theorem outcome_limits [F64 F] (nfkc : Text → Text) (self : TrustedCore F σ) (ctx : MessageContext)
    (content : Text) (now : Instant) (order : IterOrder UInt64 Instant) :
    LimitStep ctx now self.limits
      (decide ((self.outcome nfkc ctx content now order).1.action ≠ .noop))
      (self.outcome nfkc ctx content now order).2.limits := by
  have hasked : (self.asked nfkc ctx content now order).limits = self.limits := rfl
  unfold outcome
  split_ifs with h₁ h₂
  · exact LimitStep.held
  · exact LimitStep.held
  · rw [← hasked]
    generalize self.asked nfkc ctx content now order = core
    have hcool := (core.afterTake now).cooldownAllows_limits ctx now
    have htake : (core.afterTake now).limits =
        { core.limits with bucket := (core.limits.bucket.tryTake 1 now).2 } := rfl
    unfold settle
    split_ifs with hc _ _ _ hb ht ha hallow
    · exact LimitStep.held
    · exact LimitStep.held
    · exact LimitStep.held
    · exact LimitStep.held
    · exact LimitStep.held
    · exact LimitStep.spent
    · exact LimitStep.spent
    · -- the guild may have been marked before the global cooldown was found running
      rcases hcool.1 (by simpa using hallow) with h | h
      · rw [h]
        exact LimitStep.spent
      · rw [h]
        exact LimitStep.cooling
    · have hallow' : ((core.afterTake now).cooldownAllows ctx now).1 = true := by simpa using hallow
      obtain ⟨huser, hchannel, hguild, hglobal⟩ := (cooldownAllows_eq_true_iff _ _ _).1 hallow'
      have ht' : (core.outboundBucket.tryTake 1 now).1 = true := by simpa using ht
      rw [hcool.2 hallow', decide_eq_true hc]
      have hsent := @LimitStep.sent _ _ ctx now core.limits ht' huser hchannel hguild hglobal
      convert hsent using 1
      unfold Limits.markGuild
      cases ctx.guildId <;> rfl

/-! ### What a run shows -/

/-- A decision of a run. -/
structure Decided where
  ctx : MessageContext
  now : Instant
  /-- The message came as far as the duplicate guard, which marked it. -/
  marked : Bool
  decision : ActionDecision

/-- The decision is to do something. -/
def Decided.outbound (e : Decided) : Bool := decide (e.decision.action ≠ .noop)

/-- What an operation shows, in the state before it. -/
def decided [F64 F] (nfkc : Text → Text) (self : TrustedCore F σ) : Op → Option Decided
  | .decideMessage ctx content now order =>
      some ⟨ctx, now, self.screened ctx now, (self.decideMessage nfkc ctx content now order).1⟩
  | _ => none

/-- The instant at which an operation reads the clock. -/
def Op.instant? : Op → Option Instant
  | .decideMessage _ _ now _ => some now
  | .recordHttpStatus _ now => some now
  | _ => none

theorem Op.clock_eq {op : Op} {now : Instant} (h : op.instant? = some now) (t : Instant) :
    Runs.clock Op.instant? t op = now := by
  unfold Runs.clock
  rw [h, Option.getD_some]

/-- Once a decision is made, no decision is later than the last. -/
theorem le_now_concat {h : List Decided} {e : Decided} (hpast : ∀ e' ∈ h, e'.now ≤ e.now) :
    ∀ e' ∈ h ++ [e], e'.now ≤ e.now := by
  intro e' he'
  rcases List.mem_append.1 he' with he' | he'
  · exact hpast e' he'
  · exact le_of_eq (congrArg Decided.now (List.mem_singleton.1 he'))

/-- The decisions of a run. -/
abbrev decisions [F64 F] (nfkc : Text → Text) (self : TrustedCore F σ) (ops : List Op) :
    List Decided :=
  Runs.trace (step nfkc) (decided nfkc) self ops

theorem decisions_cons [F64 F] (nfkc : Text → Text) (self : TrustedCore F σ) (op : Op)
    (ops : List Op) : decisions nfkc self (op :: ops) =
      (self.decided nfkc op).toList ++ decisions nfkc (self.step nfkc op) ops := rfl

/-- Two messages of one author, a second apart, and a refused request between them. -/
def twoMessages : List Op :=
  [.decideMessage firstMessage "oo".toList 0 (.listed _ _), .recordHttpStatus 429 5,
    .decideMessage { firstMessage with messageId := 9 } "oo".toList 1000000000 (.listed _ _)]

theorem twoMessages_clocked : Runs.Clocked Op.instant? 0 twoMessages := by
  simp [Runs.Clocked, twoMessages, Op.instant?]

/-- A core that reacts to whatever it is asked about. -/
def reactingCore : TrustedCore ℚ Unit :=
  newWithDetector (fun _ s => (.ok .reactOnce, s)) () (fun _ => ⟨.morphologicalReading, [], [], 1, 0,
    1, false, 0⟩) canonicalBotConfig (defaultRuntimeProtectionConfig ℚ) 0

end TrustedCore

end OoBot
