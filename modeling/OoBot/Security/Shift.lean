import OoBot.Security.Metrics

/-!
# Shifting the clock

An `Instant` has no origin that means anything, so nothing but the time between instants may matter.  Every
state of the trusted core can be shifted by some time, and every operation too, with the iteration orders of
the hash maps.

Each function of the limiters and of the core goes from shifted arguments to the shifted result
(`decideMessage_shift`).  Hence a bot that starts later and is asked the same at the same times after its
start decides the same (`start_does_not_matter`).
-/

namespace OoBot

/-! ### Limiters -/

variable {δ : Duration} {now : Instant}

/-- An instant, some time later. -/
def later (δ : Duration) (t : Instant) : Instant := t + δ

theorem durationSince_later (t t' : Instant) :
    durationSince (later δ t) (later δ t') = durationSince t t' := Nat.add_sub_add_right t δ t'

theorem later_lt_later {t t' : Instant} : later δ t < later δ t' ↔ t < t' := Nat.add_lt_add_iff_right

theorem later_le_later {t t' : Instant} : later δ t ≤ later δ t' ↔ t ≤ t' := Nat.add_le_add_iff_right

theorem later_add (t : Instant) (d : Duration) : later δ t + d = later δ (t + d) := Nat.add_right_comm t δ d

theorem trimFront_shift (window : Duration) (now : Instant) (l : List Instant) :
    trimFront window (later δ now) (l.map (later δ)) = (trimFront window now l).map (later δ) := by
  induction l with
  | nil => rfl
  | cons front rest ih =>
    rw [List.map_cons, trimFront, trimFront, durationSince_later]
    split_ifs
    · exact ih
    · rfl

namespace ModeState

/-- The mode, some time later. -/
def shift (δ : Duration) (self : ModeState) : ModeState := { self with changedAt := later δ self.changedAt }

theorem transition_shift (self : ModeState) (mode : RuntimeMode) (trigger : ModeTrigger) (now : Instant) :
    (self.shift δ).transition mode trigger (later δ now) =
      ((self.transition mode trigger now).1, (self.transition mode trigger now).2.shift δ) := by
  have hmode : (self.shift δ).mode = self.mode := rfl
  unfold transition
  rw [hmode]
  split_ifs
  · rfl
  · rfl

end ModeState

namespace TokenBucket

variable {F : Type}

/-- The bucket, some time later. -/
def shift (δ : Duration) (self : TokenBucket F) : TokenBucket F :=
  { self with lastRefill := later δ self.lastRefill }

variable [F64 F]

theorem refill_shift (self : TokenBucket F) (now : Instant) :
    (self.shift δ).refill (later δ now) = (self.refill now).shift δ := by
  have helapsed : durationSince (later δ now) (self.shift δ).lastRefill =
      durationSince now self.lastRefill := durationSince_later _ _
  unfold refill
  simp only [helapsed]
  split_ifs
  · rfl
  · rfl

theorem tryTake_shift (self : TokenBucket F) (amount : ℕ) (now : Instant) :
    (self.shift δ).tryTake amount (later δ now) =
      ((self.tryTake amount now).1, (self.tryTake amount now).2.shift δ) := by
  have htokens : ((self.refill now).shift δ).tokens = (self.refill now).tokens := rfl
  unfold tryTake
  simp only [refill_shift, htokens]
  split_ifs
  · rfl
  · rfl

end TokenBucket

/-- The iteration order of a map whose values are all shifted. -/
def IterOrder.shift {K : Type} [DecidableEq K] (δ : Duration) (order : IterOrder K Instant) :
    IterOrder K Instant where
  arrange l :=
    -- only the lists with shifted values matter
    if (l.map fun e => (e.1, e.2 - δ)).map (fun e => (e.1, later δ e.2)) = l then
      (order.arrange (l.map fun e => (e.1, e.2 - δ))).map fun e => (e.1, later δ e.2)
    else l
  perm l := by
    split_ifs with hl
    · have hperm := (order.perm (l.map fun e => (e.1, e.2 - δ))).map fun e => (e.1, later δ e.2)
      rwa [hl] at hperm
    · exact List.Perm.refl l

theorem IterOrder.shift_arrange {K : Type} [DecidableEq K] (order : IterOrder K Instant)
    (l : List (K × Instant)) : (order.shift δ).arrange (l.map fun e => (e.1, later δ e.2)) =
      (order.arrange l).map fun e => (e.1, later δ e.2) := by
  have hback : (l.map fun e => (e.1, later δ e.2)).map (fun e => (e.1, e.2 - δ)) = l := by
    rw [List.map_map]
    refine (List.map_congr_left fun e _ => ?_).trans l.map_id
    exact Prod.ext rfl (Nat.add_sub_cancel e.2 δ)
  unfold shift
  simp only [hback, if_true]

namespace DuplicateGuard

variable {order : IterOrder UInt64 Instant}

/-- The guard, some time later. -/
def shift (δ : Duration) (self : DuplicateGuard) : DuplicateGuard :=
  { self with seen := self.seen.mapValues (later δ) }

theorem evictOld_shift (self : DuplicateGuard) (now : Instant) :
    (self.shift δ).evictOld (later δ now) = (self.evictOld now).shift δ := by
  unfold evictOld shift
  simp only
  rw [KeyMap.retain_mapValues fun k ts => ?_]
  rw [durationSince_later]

theorem sortByTime_shift (items : List (UInt64 × Instant)) :
    sortByTime (items.map fun e => (e.1, later δ e.2)) =
      (sortByTime items).map fun e => (e.1, later δ e.2) := by
  unfold sortByTime
  refine (List.map_mergeSort fun a _ b _ => ?_).symm
  simp only [later_le_later]

/-- What `compact` leaves. -/
theorem entries_compact (self : DuplicateGuard) (order : IterOrder UInt64 Instant) :
    (self.compact order).seen.entries = (sortByTime (order.arrange self.seen.entries)).drop
      ((sortByTime (order.arrange self.seen.entries)).length - self.cap) :=
  rfl

theorem compact_shift (self : DuplicateGuard) (order : IterOrder UInt64 Instant) :
    (self.shift δ).compact (order.shift δ) = (self.compact order).shift δ := by
  have hitems : sortByTime ((order.shift δ).arrange (self.shift δ).seen.entries) =
      (sortByTime (order.arrange self.seen.entries)).map fun e => (e.1, later δ e.2) := by
    rw [← sortByTime_shift, ← IterOrder.shift_arrange]
    rfl
  have hcap : (self.shift δ).cap = self.cap := rfl
  refine congrArg (fun seen => ({ self with seen := seen } : DuplicateGuard)) (KeyMap.ext_entries ?_)
  show ((self.shift δ).compact (order.shift δ)).seen.entries = (self.compact order).seen.entries.map _
  rw [entries_compact, entries_compact, hitems, hcap, List.length_map, List.map_drop]

theorem isDuplicateAndMark_shift (self : DuplicateGuard) (messageId : UInt64) (now : Instant)
    (order : IterOrder UInt64 Instant) :
    (self.shift δ).isDuplicateAndMark messageId (later δ now) (order.shift δ) =
      ((self.isDuplicateAndMark messageId now order).1,
        (self.isDuplicateAndMark messageId now order).2.shift δ) := by
  have hsome (guard : DuplicateGuard) : ((guard.shift δ).seen.get? messageId).isSome =
      (guard.seen.get? messageId).isSome := by
    unfold shift
    rw [KeyMap.get?_mapValues, Option.isSome_map]
  have hmark (guard : DuplicateGuard) : ({ guard.shift δ with
      seen := (guard.shift δ).seen.insert messageId (later δ now) } : DuplicateGuard) =
        ({ guard with seen := guard.seen.insert messageId now } : DuplicateGuard).shift δ := by
    unfold shift
    rw [KeyMap.insert_mapValues]
  have hsize (guard : DuplicateGuard) : ((guard.shift δ).seen.insert messageId (later δ now)).size =
      (guard.seen.insert messageId now).size := by
    unfold shift
    rw [KeyMap.insert_mapValues, KeyMap.size_mapValues]
  have hcap (guard : DuplicateGuard) : (guard.shift δ).cap = guard.cap := rfl
  unfold isDuplicateAndMark
  simp only [evictOld_shift, hsome]
  rw [hmark, hsize, hcap]
  split_ifs
  · rw [compact_shift]
  · rfl

end DuplicateGuard

namespace HttpCircuitBreaker

/-- The breaker, some time later. -/
def shift (δ : Duration) (self : HttpCircuitBreaker) : HttpCircuitBreaker :=
  { self with
    failures := self.failures.map (later δ)
    openUntil := self.openUntil.map (later δ) }

theorem isOpen_shift (self : HttpCircuitBreaker) (now : Instant) :
    (self.shift δ).isOpen (later δ now) = self.isOpen now := by
  unfold isOpen shift
  cases self.openUntil with
  | none => rfl
  | some u => exact decide_eq_decide.2 later_lt_later

theorem recordStatus_shift (self : HttpCircuitBreaker) (status : ℕ) (now : Instant) :
    (self.shift δ).recordStatus status (later δ now) = (self.recordStatus status now).shift δ := by
  have hfailures : trimFront (self.shift δ).window (later δ now)
      ((self.shift δ).failures ++ [later δ now]) =
        (trimFront self.window now (self.failures ++ [now])).map (later δ) := by
    rw [← trimFront_shift, List.map_append]
    rfl
  have hthreshold : (self.shift δ).threshold = self.threshold := rfl
  have hopen : later δ now + (self.shift δ).openFor = later δ (now + self.openFor) := later_add _ _
  unfold recordStatus
  simp only [hfailures, hthreshold, hopen, List.length_map]
  split_ifs
  · rfl
  · rfl
  · rfl

end HttpCircuitBreaker

namespace CooldownMap

/-- The cooldowns, some time later. -/
def shift (δ : Duration) (self : CooldownMap) : CooldownMap :=
  { self with nextAllowed := self.nextAllowed.mapValues (later δ) }

theorem isCooling_shift (self : CooldownMap) (key : UInt64) (now : Instant) :
    (self.shift δ).isCooling key (later δ now) = self.isCooling key now := by
  unfold isCooling shift
  rw [KeyMap.get?_mapValues]
  cases self.nextAllowed.get? key with
  | none => rfl
  | some next => exact decide_eq_decide.2 later_lt_later

theorem mark_shift (self : CooldownMap) (key : UInt64) (now : Instant) :
    (self.shift δ).mark key (later δ now) = (self.mark key now).shift δ := by
  unfold mark shift
  simp only [later_add, KeyMap.insert_mapValues]

end CooldownMap

/-! ### The core -/

namespace TrustedCore

variable {F σ : Type}

/-- The core, some time later. -/
def shift (δ : Duration) (self : TrustedCore F σ) : TrustedCore F σ :=
  { self with
    mode := self.mode.shift δ
    duplicateGuard := self.duplicateGuard.shift δ
    breaker := self.breaker.shift δ
    outboundBucket := self.outboundBucket.shift δ
    userCooldown := self.userCooldown.shift δ
    channelCooldown := self.channelCooldown.shift δ
    guildCooldown := self.guildCooldown.shift δ
    globalCooldown := self.globalCooldown.shift δ
    sandboxFailures := self.sandboxFailures.map (later δ) }

/-! #### Steps of a decision -/

theorem trimSandboxFailures_shift (self : TrustedCore F σ) (now : Instant) :
    (self.shift δ).trimSandboxFailures (later δ now) = (self.trimSandboxFailures now).shift δ := by
  have hfailures : trimFront (fromMillis (self.shift δ).runtime.sandboxFailureWindowMs) (later δ now)
      (self.shift δ).sandboxFailures = (trimFront (fromMillis self.runtime.sandboxFailureWindowMs) now
        self.sandboxFailures).map (later δ) := trimFront_shift _ _ _
  unfold trimSandboxFailures
  rw [hfailures]
  rfl

theorem targetMode_shift (self : TrustedCore F σ) (now : Instant) :
    (self.shift δ).targetMode (later δ now) = self.targetMode now := by
  have hopen : (self.shift δ).breaker.isOpen (later δ now) = self.breaker.isOpen now :=
    self.breaker.isOpen_shift now
  have hlength : (self.shift δ).sandboxFailures.length = self.sandboxFailures.length :=
    List.length_map _
  unfold targetMode
  rw [hopen, hlength]
  rfl

theorem recomputeMode_shift (self : TrustedCore F σ) (now : Instant) :
    (self.shift δ).recomputeMode (later δ now) =
      ((self.recomputeMode now).1, (self.recomputeMode now).2.shift δ) := by
  unfold recomputeMode
  simp only [trimSandboxFailures_shift, targetMode_shift]
  generalize self.trimSandboxFailures now = core
  generalize core.targetMode now = target
  have hmode : (core.shift δ).mode = core.mode.shift δ := rfl
  by_cases hlow : target.2 = .sessionBudgetLow
  · simp only [if_pos hlow, hmode, ModeState.transition_shift]
    split_ifs <;> rfl
  · simp only [if_neg hlow, hmode, ModeState.transition_shift]
    split_ifs <;> rfl

theorem recordAnalyzerError_shift (self : TrustedCore F σ) (now : Instant) (err : AnalyzerError) :
    (self.shift δ).recordAnalyzerError (later δ now) err = (self.recordAnalyzerError now err).shift δ := by
  unfold recordAnalyzerError
  simp only
  rw [← trimSandboxFailures_shift]
  refine congrArg (fun core : TrustedCore F σ => core.trimSandboxFailures (later δ now)) ?_
  unfold shift
  simp only [List.map_append]
  rfl

theorem askAnalyzer_shift (self : TrustedCore F σ) (req : AnalyzerRequest) (now : Instant) :
    (self.shift δ).askAnalyzer req (later δ now) =
      ((self.askAnalyzer req now).1, (self.askAnalyzer req now).2.shift δ) := by
  have hanswer : (self.shift δ).analyzer req (self.shift δ).analyzerState =
      self.analyzer req self.analyzerState := rfl
  unfold askAnalyzer
  simp only [hanswer]
  cases (self.analyzer req self.analyzerState).1 with
  | ok p => rfl
  | error err =>
    let core : TrustedCore F σ := { self with
      analyzerState := (self.analyzer req self.analyzerState).2
      metrics := { self.metrics with
        analyzerCallsTotal := saturatingInc self.metrics.analyzerCallsTotal } }
    exact congrArg (Prod.mk ActionProposal.defer) (core.recordAnalyzerError_shift now err)

theorem cooldownAllows_shift (self : TrustedCore F σ) (ctx : MessageContext) (now : Instant) :
    (self.shift δ).cooldownAllows ctx (later δ now) =
      ((self.cooldownAllows ctx now).1, (self.cooldownAllows ctx now).2.shift δ) := by
  have huser : (self.shift δ).userCooldown = self.userCooldown.shift δ := rfl
  have hchannel : (self.shift δ).channelCooldown = self.channelCooldown.shift δ := rfl
  have hguild : (self.shift δ).guildCooldown = self.guildCooldown.shift δ := rfl
  have hglobal : (self.shift δ).globalCooldown = self.globalCooldown.shift δ := rfl
  unfold cooldownAllows
  cases ctx.guildId with
  | none =>
    simp only [huser, hchannel, hglobal, CooldownMap.isCooling_shift, CooldownMap.mark_shift]
    split_ifs <;> rfl
  | some guildId =>
    simp only [huser, hchannel, hguild, hglobal, CooldownMap.isCooling_shift, CooldownMap.mark_shift]
    split_ifs <;> rfl

section Decisions

variable [F64 F]

theorem finalize_shift (self : TrustedCore F σ) (ctx : MessageContext) (proposal : ActionProposal)
    (suspicion : SuspicionLevel) (mode : RuntimeMode) (now : Instant)
    (detection : Option DetectionReport) :
    (self.shift δ).finalize ctx proposal suspicion mode (later δ now) detection =
      ((self.finalize ctx proposal suspicion mode now detection).1,
        (self.finalize ctx proposal suspicion mode now detection).2.shift δ) := by
  have hcompiled : (self.shift δ).compiled proposal suspicion mode detection =
      self.compiled proposal suspicion mode detection := rfl
  have hopen : (self.shift δ).breaker.isOpen (later δ now) = self.breaker.isOpen now :=
    self.breaker.isOpen_shift now
  have hbucket : (self.shift δ).outboundBucket = self.outboundBucket.shift δ := rfl
  have htake : (self.shift δ).afterTake (later δ now) = (self.afterTake now).shift δ := by
    unfold afterTake
    rw [hbucket, TokenBucket.tryTake_shift]
    rfl
  have hruntime : (self.shift δ).runtime = self.runtime := rfl
  rw [finalize_eq, finalize_eq, hcompiled, hopen, htake, cooldownAllows_shift, hbucket,
    TokenBucket.tryTake_shift, hruntime]
  split_ifs <;> rfl

/-- The analyzer is asked, and the last step follows. -/
theorem askAnalyzer_finalize_shift (self : TrustedCore F σ) (ctx : MessageContext)
    (req : AnalyzerRequest) (suspicion : SuspicionLevel) (mode : RuntimeMode) (now : Instant)
    (detection : Option DetectionReport) :
    ((self.shift δ).askAnalyzer req (later δ now)).2.finalize ctx
        ((self.shift δ).askAnalyzer req (later δ now)).1 suspicion mode (later δ now) detection =
      (((self.askAnalyzer req now).2.finalize ctx (self.askAnalyzer req now).1 suspicion mode now
          detection).1,
        ((self.askAnalyzer req now).2.finalize ctx (self.askAnalyzer req now).1 suspicion mode now
          detection).2.shift δ) := by
  rw [askAnalyzer_shift]
  exact finalize_shift _ ctx _ suspicion mode now detection

theorem decideMessage_shift (nfkc : Text → Text) (self : TrustedCore F σ) (ctx : MessageContext)
    (content : Text) (now : Instant) (order : IterOrder UInt64 Instant) :
    (self.shift δ).decideMessage nfkc ctx content (later δ now) (order.shift δ) =
      ((self.decideMessage nfkc ctx content now order).1,
        (self.decideMessage nfkc ctx content now order).2.shift δ) := by
  unfold decideMessage
  simp only [recomputeMode_shift]
  generalize self.recomputeMode now = recomputed
  obtain ⟨mode, core⟩ := recomputed
  have hguild : (core.shift δ).allowGuild ctx.guildId = core.allowGuild ctx.guildId := rfl
  have hchannel : (core.shift δ).allowChannel ctx.channelId = core.allowChannel ctx.channelId := rfl
  have hguard : (core.shift δ).duplicateGuard = core.duplicateGuard.shift δ := rfl
  have hcfg : (core.shift δ).suspiciousCfg = core.suspiciousCfg := rfl
  have hdetector : (core.shift δ).detector = core.detector := rfl
  simp only [hguild, hchannel, hguard, hcfg, hdetector, DuplicateGuard.isDuplicateAndMark_shift]
  generalize core.duplicateGuard.isDuplicateAndMark ctx.messageId now order = marked
  obtain ⟨isDup, duplicateGuard⟩ := marked
  split_ifs with hmode hbot hallowGuild hallowChannel hdup hhard
  iterate 5
    · rfl
  · exact finalize_shift ({ core with
      duplicateGuard := duplicateGuard
      lastDetection := some (core.detector content) } : TrustedCore F σ) ctx _ _ mode now _
  · exact askAnalyzer_finalize_shift ({ core with
      duplicateGuard := duplicateGuard
      lastDetection := some (core.detector content) } : TrustedCore F σ) ctx _ _ mode now _

/-! ### Runs -/

/-- The operation, some time later. -/
def Op.shift (δ : Duration) : Op → Op
  | .decideMessage ctx content now order => .decideMessage ctx content (later δ now) (order.shift δ)
  | .recordHttpStatus status now => .recordHttpStatus status (later δ now)
  | op => op

theorem step_shift (nfkc : Text → Text) (self : TrustedCore F σ) (op : Op) :
    (self.shift δ).step nfkc (op.shift δ) = (self.step nfkc op).shift δ := by
  cases op with
  | decideMessage ctx content now order =>
    exact congrArg Prod.snd (decideMessage_shift nfkc self ctx content now order)
  | recordHttpStatus status now =>
    have hbreaker : (self.shift δ).breaker.recordStatus status (later δ now) =
        (self.breaker.recordStatus status now).shift δ := self.breaker.recordStatus_shift status now
    show (self.shift δ).recordHttpStatus status (later δ now) =
      (self.recordHttpStatus status now).shift δ
    unfold recordHttpStatus
    rw [hbreaker]
    rfl
  | _ => rfl

theorem logged_shift (nfkc : Text → Text) (self : TrustedCore F σ) (op : Op) :
    (self.shift δ).logged nfkc (op.shift δ) = self.logged nfkc op := by
  cases op with
  | decideMessage ctx content now order =>
    have hdecision : ((self.shift δ).decideMessage nfkc ctx content (later δ now) (order.shift δ)).1 =
        (self.decideMessage nfkc ctx content now order).1 := by
      rw [decideMessage_shift]
    have hanswers : (self.shift δ).answers nfkc ctx content (later δ now) (order.shift δ) =
        self.answers nfkc ctx content now order := by
      have hrecord : (self.shift δ).withRecord = self.withRecord.shift δ := rfl
      unfold answers
      rw [hrecord, decideMessage_shift]
      rfl
    show some (LogEntry.mk _ _) = some (LogEntry.mk _ _)
    rw [hdecision, hanswers]
  | _ => rfl

theorem newWithDetector_shift (analyzer : ProposalAnalyzer σ) (analyzerState : σ)
    (detector : MessageDetector) (botConfig : BotConfig) (runtime : RuntimeProtectionConfig F)
    (start : Instant) :
    (newWithDetector analyzer analyzerState detector botConfig runtime (later δ start) :
        TrustedCore F σ) =
      (newWithDetector analyzer analyzerState detector botConfig runtime start).shift δ :=
  rfl

/-- **When the bot was started does not matter.**  Two cores that are built alike, one of them some time
later, and that are handed the same operations at the same times after they were built, in whatever order
these come, decide and answer the same, and what they keep is the same but for the instants. -/
theorem start_does_not_matter (nfkc : Text → Text) (analyzer : ProposalAnalyzer σ) (analyzerState : σ)
    (detector : MessageDetector) (botConfig : BotConfig) (runtime : RuntimeProtectionConfig F)
    (start : Instant) (δ : Duration) (ops : List Op) :
    decisionLog nfkc (newWithDetector analyzer analyzerState detector botConfig runtime (later δ start))
        (ops.map (Op.shift δ)) =
      decisionLog nfkc (newWithDetector analyzer analyzerState detector botConfig runtime start) ops ∧
    (reached nfkc analyzer analyzerState detector botConfig runtime (later δ start)
        (ops.map (Op.shift δ))).metrics =
      (reached nfkc analyzer analyzerState detector botConfig runtime start ops).metrics ∧
    reached nfkc analyzer analyzerState detector botConfig runtime (later δ start)
        (ops.map (Op.shift δ)) =
      (reached nfkc analyzer analyzerState detector botConfig runtime start ops).shift δ := by
  have hreached : reached nfkc analyzer analyzerState detector botConfig runtime (later δ start)
      (ops.map (Op.shift δ)) =
        (reached nfkc analyzer analyzerState detector botConfig runtime start ops).shift δ := by
    unfold reached
    rw [newWithDetector_shift]
    exact Runs.run_map (step_shift nfkc) _ ops
  refine ⟨?_, ?_, hreached⟩
  · rw [newWithDetector_shift]
    exact Runs.trace_map_ops (step_shift nfkc) (logged_shift nfkc) _ ops
  · rw [hreached]
    rfl

end Decisions

end TrustedCore

end OoBot
