import OoBot.Security.Ledger
import OoBot.Security.SlidingRate

/-!
# A core that is left alone

Everything the core keeps has a time after which it says nothing any more: a mark its ttl, a failure its
window, a cooldown its length, an open breaker its pause, an empty bucket the time in which it fills up.
Once all of them are over, the core decides every further run as a new core with the same settings does
(`quiet_core_forgets`).

`Alike` relates states that show the same from an instant on; every operation keeps it.
-/

namespace OoBot

namespace CooldownMap

/-- The two maps say the same from `t` on. -/
structure Alike (t : Instant) (a b : CooldownMap) : Prop where
  ttl : a.ttl = b.ttl
  cooling : ∀ key now, t ≤ now → a.isCooling key now = b.isCooling key now

variable {t now : Instant} {a b : CooldownMap}

theorem Alike.mono (h : Alike t a b) (hle : t ≤ now) : Alike now a b :=
  ⟨h.ttl, fun key later hlater => h.cooling key later (hle.trans hlater)⟩

theorem Alike.mark (h : Alike t a b) (key : UInt64) : Alike t (a.mark key now) (b.mark key now) where
  ttl := h.ttl
  cooling key' later hlater := by
    rw [isCooling_mark, isCooling_mark, h.ttl, h.cooling key' later hlater]

end CooldownMap

namespace HttpCircuitBreaker

/-- The two breakers say the same from `t` on. -/
structure Alike (t : Instant) (a b : HttpCircuitBreaker) : Prop where
  window : a.window = b.window
  threshold : a.threshold = b.threshold
  openFor : a.openFor = b.openFor
  isOpen : ∀ now, t ≤ now → a.isOpen now = b.isOpen now
  failures : ∀ now, t ≤ now → trimFront b.window now a.failures = trimFront b.window now b.failures

variable {t now : Instant} {a b : HttpCircuitBreaker}

theorem Alike.mono (h : Alike t a b) (hle : t ≤ now) : Alike now a b :=
  ⟨h.window, h.threshold, h.openFor, fun later hlater => h.isOpen later (hle.trans hlater),
    fun later hlater => h.failures later (hle.trans hlater)⟩

theorem Alike.record (h : Alike t a b) (status : ℕ) (hle : t ≤ now) :
    Alike now (a.recordStatus status now) (b.recordStatus status now) := by
  have hfailures : trimFront b.window now (a.failures ++ [now]) =
      trimFront b.window now (b.failures ++ [now]) := by
    rw [← trimFront_append_trimFront (le_refl now), h.failures now hle,
      trimFront_append_trimFront (le_refl now)]
  unfold recordStatus
  cases isFailure status with
  | false => exact h.mono hle
  | true =>
    simp only [if_true]
    rw [h.window, h.threshold, h.openFor, hfailures]
    by_cases htrip : (trimFront b.window now (b.failures ++ [now])).length ≥ b.threshold
    · rw [if_pos htrip, if_pos htrip]
      exact ⟨rfl, rfl, rfl, fun _ _ => rfl, fun _ _ => rfl⟩
    · rw [if_neg htrip, if_neg htrip]
      exact ⟨rfl, rfl, rfl, fun later hlater => h.isOpen later (hle.trans hlater), fun _ _ => rfl⟩

end HttpCircuitBreaker

namespace TrustedCore

variable {F σ : Type} [F64 F]

/-- The two states show the same from `t` on. -/
structure Alike (t : Instant) (a b : TrustedCore F σ) : Prop where
  analyzer : a.analyzer = b.analyzer
  analyzerState : a.analyzerState = b.analyzerState
  detector : a.detector = b.detector
  botConfig : a.botConfig = b.botConfig
  runtime : a.runtime = b.runtime
  suspiciousCfg : a.suspiciousCfg = b.suspiciousCfg
  sessionBudget : a.sessionBudget = b.sessionBudget
  guard : ∀ now, t ≤ now → a.duplicateGuard.evictOld now = b.duplicateGuard.evictOld now
  breaker : a.breaker.Alike t b.breaker
  failures : ∀ now, t ≤ now →
    trimFront (fromMillis b.runtime.sandboxFailureWindowMs) now a.sandboxFailures =
      trimFront (fromMillis b.runtime.sandboxFailureWindowMs) now b.sandboxFailures
  bucket : ∀ now, t ≤ now → a.outboundBucket.refill now = b.outboundBucket.refill now
  user : a.userCooldown.Alike t b.userCooldown
  channel : a.channelCooldown.Alike t b.channelCooldown
  guild : a.guildCooldown.Alike t b.guildCooldown
  global : a.globalCooldown.Alike t b.globalCooldown

section Alike

variable {t now : Instant} {a b : TrustedCore F σ} {ctx : MessageContext} {nfkc : Text → Text}
  {content : Text} {order : IterOrder UInt64 Instant}

theorem Alike.mono (h : Alike t a b) (hle : t ≤ now) : Alike now a b where
  analyzer := h.analyzer
  analyzerState := h.analyzerState
  detector := h.detector
  botConfig := h.botConfig
  runtime := h.runtime
  suspiciousCfg := h.suspiciousCfg
  sessionBudget := h.sessionBudget
  guard later hlater := h.guard later (hle.trans hlater)
  breaker := h.breaker.mono hle
  failures later hlater := h.failures later (hle.trans hlater)
  bucket later hlater := h.bucket later (hle.trans hlater)
  user := h.user.mono hle
  channel := h.channel.mono hle
  guild := h.guild.mono hle
  global := h.global.mono hle

theorem Alike.withBooks (h : Alike t a b) (mode mode' : ModeState)
    (metrics metrics' : RuntimeMetrics) :
    Alike t (a.withBooks mode metrics) (b.withBooks mode' metrics') :=
  ⟨h.analyzer, h.analyzerState, h.detector, h.botConfig, h.runtime, h.suspiciousCfg,
    h.sessionBudget, h.guard, h.breaker, h.failures, h.bucket, h.user, h.channel, h.guild, h.global⟩

/-! ### Before the last step -/

theorem Alike.mode_eq (h : Alike t a b) (hle : t ≤ now) : a.effectiveMode now = b.effectiveMode now := by
  unfold effectiveMode targetMode trimSandboxFailures
  simp only
  rw [h.runtime, h.sessionBudget, h.breaker.isOpen now hle, h.failures now hle]

theorem Alike.screened_eq (h : Alike t a b) (hle : t ≤ now) :
    a.screened ctx now = b.screened ctx now ∧ a.screenReason ctx now = b.screenReason ctx now := by
  have hguild : a.allowGuild ctx.guildId = b.allowGuild ctx.guildId := by
    unfold allowGuild
    rw [h.runtime]
  have hchannel : a.allowChannel ctx.channelId = b.allowChannel ctx.channelId := by
    unfold allowChannel
    rw [h.runtime]
  unfold screened screenReason
  rw [h.mode_eq hle, hguild, hchannel]
  exact ⟨rfl, rfl⟩

/-- The guard evicts before it looks, so it answers alike and is the same afterwards. -/
theorem Alike.guard_eq (h : Alike t a b) (hle : t ≤ now) (m : UInt64)
    (order : IterOrder UInt64 Instant) :
    a.duplicateGuard.isDuplicateAndMark m now order =
      b.duplicateGuard.isDuplicateAndMark m now order := by
  unfold DuplicateGuard.isDuplicateAndMark
  rw [h.guard now hle]

theorem Alike.trimmed (h : Alike t a b) (hle : t ≤ now) :
    Alike now (a.trimSandboxFailures now) (b.trimSandboxFailures now) := by
  have hnow := h.mono hle
  refine ⟨h.analyzer, h.analyzerState, h.detector, h.botConfig, h.runtime, h.suspiciousCfg,
    h.sessionBudget, hnow.guard, hnow.breaker, fun later _ => ?_, hnow.bucket, hnow.user,
    hnow.channel, hnow.guild, hnow.global⟩
  unfold trimSandboxFailures
  simp only
  rw [h.runtime, h.failures now hle]

theorem Alike.marked (h : Alike t a b) (hle : t ≤ now) (order : IterOrder UInt64 Instant) :
    Alike now (a.marked ctx now order) (b.marked ctx now order) := by
  have htrim := h.trimmed hle
  refine ⟨h.analyzer, h.analyzerState, h.detector, h.botConfig, h.runtime, h.suspiciousCfg,
    h.sessionBudget, fun later _ => ?_, htrim.breaker, htrim.failures, htrim.bucket, htrim.user,
    htrim.channel, htrim.guild, htrim.global⟩
  unfold TrustedCore.marked
  simp only
  rw [h.guard_eq hle]

theorem Alike.proposal_eq (h : Alike t a b) :
    a.proposalFor nfkc content = b.proposalFor nfkc content := by
  unfold proposalFor
  rw [h.analyzer, h.analyzerState, h.detector, h.suspiciousCfg]

theorem Alike.asked (h : Alike t a b) (hle : t ≤ now) (nfkc : Text → Text) (content : Text)
    (order : IterOrder UInt64 Instant) :
    Alike now (a.asked nfkc ctx content now order) (b.asked nfkc ctx content now order) := by
  have hmarked := @Alike.marked _ _ _ _ _ _ _ ctx h hle order
  have hstate : a.analyzerStateAfter nfkc content = b.analyzerStateAfter nfkc content := by
    unfold analyzerStateAfter
    rw [h.analyzer, h.analyzerState, h.detector, h.suspiciousCfg]
  have hfailures : a.failuresAfter nfkc content now = b.failuresAfter nfkc content now := by
    rw [failuresAfter_eq, failuresAfter_eq, h.analyzer, h.analyzerState, h.detector, h.suspiciousCfg,
      h.runtime, ← trimFront_append_trimFront (le_refl now), h.failures now hle,
      trimFront_append_trimFront (le_refl now)]
  refine ⟨h.analyzer, hstate, h.detector, h.botConfig, h.runtime, h.suspiciousCfg, h.sessionBudget,
    hmarked.guard, hmarked.breaker, fun later _ => ?_, hmarked.bucket, hmarked.user,
    hmarked.channel, hmarked.guild, hmarked.global⟩
  unfold TrustedCore.asked
  simp only
  rw [hfailures]

/-! ### The last step -/

omit [F64 F] in
theorem ownRested_congr (huser : a.userCooldown.Alike t b.userCooldown)
    (hchannel : a.channelCooldown.Alike t b.channelCooldown)
    (hguild : a.guildCooldown.Alike t b.guildCooldown) (hle : t ≤ now) :
    a.OwnRested ctx now ↔ b.OwnRested ctx now := by
  constructor
  · rintro ⟨hu, hc, hg⟩
    exact ⟨by rw [← huser.cooling _ _ hle, hu], by rw [← hchannel.cooling _ _ hle, hc],
      fun g hid => by rw [← hguild.cooling _ _ hle, hg g hid]⟩
  · rintro ⟨hu, hc, hg⟩
    exact ⟨by rw [huser.cooling _ _ hle, hu], by rw [hchannel.cooling _ _ hle, hc],
      fun g hid => by rw [hguild.cooling _ _ hle, hg g hid]⟩

theorem Alike.markGuild (h : Alike t a b) (ctx : MessageContext) (now : Instant) :
    Alike t (a.markGuild ctx now) (b.markGuild ctx now) := by
  unfold TrustedCore.markGuild
  cases ctx.guildId with
  | none => exact h
  | some g =>
    exact ⟨h.analyzer, h.analyzerState, h.detector, h.botConfig, h.runtime, h.suspiciousCfg,
      h.sessionBudget, h.guard, h.breaker, h.failures, h.bucket, h.user, h.channel, h.guild.mark g,
      h.global⟩

/-- The cooldown step answers alike, and keeps the states alike. -/
theorem Alike.cooldownAllows (h : Alike now a b) (ctx : MessageContext) :
    (a.cooldownAllows ctx now).1 = (b.cooldownAllows ctx now).1 ∧
      Alike now (a.cooldownAllows ctx now).2 (b.cooldownAllows ctx now).2 := by
  have hrested := @ownRested_congr _ _ _ now a b ctx h.user h.channel h.guild (le_refl now)
  have hglobal := h.global.cooling 0 now (le_refl now)
  have hmark := h.markGuild ctx now
  rcases cooldownAllows_cases a ctx now with ⟨ha, heq⟩ | ⟨ha, hga, heq⟩ | ⟨ha, hga, heq⟩ <;>
    rcases cooldownAllows_cases b ctx now with ⟨hb, heq'⟩ | ⟨hb, hgb, heq'⟩ | ⟨hb, hgb, heq'⟩
  · rw [heq, heq']
    exact ⟨rfl, h⟩
  · exact absurd (hrested.2 hb) ha
  · exact absurd (hrested.2 hb) ha
  · exact absurd (hrested.1 ha) hb
  · rw [heq, heq']
    exact ⟨rfl, hmark⟩
  · rw [hga, hgb] at hglobal
    cases hglobal
  · exact absurd (hrested.1 ha) hb
  · rw [hga, hgb] at hglobal
    cases hglobal
  · rw [heq, heq']
    exact ⟨rfl, hmark.analyzer, hmark.analyzerState, hmark.detector, hmark.botConfig, hmark.runtime,
      hmark.suspiciousCfg, hmark.sessionBudget, hmark.guard, hmark.breaker, hmark.failures,
      hmark.bucket, h.user.mark _, h.channel.mark _, hmark.guild, h.global.mark _⟩

/-- The bucket fills up before it looks, so it answers alike and is the same afterwards. -/
theorem Alike.tryTake_eq (h : Alike t a b) (hle : t ≤ now) :
    a.outboundBucket.tryTake 1 now = b.outboundBucket.tryTake 1 now := by
  unfold TokenBucket.tryTake
  rw [h.bucket now hle]

theorem Alike.afterTake (h : Alike now a b) : Alike now (a.afterTake now) (b.afterTake now) := by
  refine ⟨h.analyzer, h.analyzerState, h.detector, h.botConfig, h.runtime, h.suspiciousCfg,
    h.sessionBudget, h.guard, h.breaker, h.failures, fun later _ => ?_, h.user, h.channel, h.guild,
    h.global⟩
  unfold TrustedCore.afterTake
  simp only
  rw [h.tryTake_eq (le_refl now)]

theorem Alike.settle (h : Alike now a b) (ctx : MessageContext) (proposal : ActionProposal)
    (suspicion : SuspicionLevel) (mode : RuntimeMode) (detection : Option DetectionReport) :
    (a.settle ctx proposal suspicion mode now detection).1 =
        (b.settle ctx proposal suspicion mode now detection).1 ∧
      Alike now (a.settle ctx proposal suspicion mode now detection).2
        (b.settle ctx proposal suspicion mode now detection).2 := by
  have hcompiled : a.compiled proposal suspicion mode detection =
      b.compiled proposal suspicion mode detection := by
    unfold compiled
    rw [h.botConfig, h.runtime]
  obtain ⟨hallows, hcooled⟩ := h.afterTake.cooldownAllows ctx
  have htake := h.afterTake
  unfold TrustedCore.settle
  rw [hcompiled, h.breaker.isOpen now (le_refl now), h.tryTake_eq (le_refl now), h.runtime, hallows]
  split_ifs
  · exact ⟨rfl, h⟩
  · exact ⟨rfl, h⟩
  · exact ⟨rfl, h⟩
  · exact ⟨rfl, h⟩
  · exact ⟨rfl, h⟩
  · exact ⟨rfl, htake⟩
  · exact ⟨rfl, htake⟩
  · exact ⟨rfl, hcooled⟩
  · exact ⟨rfl, hcooled⟩

/-! ### Operations -/

/-- States that are alike decide alike, and are alike again. -/
theorem Alike.decide (h : Alike t a b) (hle : t ≤ now) :
    (a.decideMessage nfkc ctx content now order).1 =
        (b.decideMessage nfkc ctx content now order).1 ∧
      Alike now (a.decideMessage nfkc ctx content now order).2
        (b.decideMessage nfkc ctx content now order).2 := by
  obtain ⟨modeA, metricsA, ha⟩ := a.decideMessage_eq_outcome nfkc ctx content now order
  obtain ⟨modeB, metricsB, hb⟩ := b.decideMessage_eq_outcome nfkc ctx content now order
  have hout : (a.outcome nfkc ctx content now order).1 = (b.outcome nfkc ctx content now order).1 ∧
      Alike now (a.outcome nfkc ctx content now order).2
        (b.outcome nfkc ctx content now order).2 := by
    obtain ⟨hscreened, hreason⟩ := @Alike.screened_eq _ _ _ _ _ _ _ ctx h hle
    unfold outcome
    rw [hscreened, hreason, h.guard_eq hle, h.mode_eq hle, h.proposal_eq, h.suspiciousCfg, h.detector]
    split_ifs
    · exact ⟨rfl, h.trimmed hle⟩
    · exact ⟨rfl, h.marked hle order⟩
    · exact (h.asked hle nfkc content order).settle ctx _ _ _ _
  rw [ha, hb]
  exact ⟨hout.1, hout.2.withBooks modeA modeB metricsA metricsB⟩

/-- Setting the same in both keeps them alike. -/
theorem Alike.obey (h : Alike t a b) (f : Orders → Orders) :
    Alike t (a.obey (f a.orders)) (b.obey (f b.orders)) := by
  have horders : a.orders = b.orders := by
    unfold orders
    rw [h.runtime, h.suspiciousCfg, h.sessionBudget]
  rw [horders]
  generalize f b.orders = o
  refine ⟨h.analyzer, h.analyzerState, h.detector, h.botConfig, ?_, rfl, rfl, h.guard, h.breaker,
    h.failures, h.bucket, h.user, h.channel, h.guild, h.global⟩
  unfold TrustedCore.obey
  rw [h.runtime]

/-- **Every operation shows the same of states that are alike, and keeps them so.** -/
theorem Alike.step (h : Alike t a b) (nfkc : Text → Text) (op : Op)
    (hle : t ≤ Runs.clock Op.instant? t op) :
    a.decided nfkc op = b.decided nfkc op ∧
      Alike (Runs.clock Op.instant? t op) (a.step nfkc op) (b.step nfkc op) := by
  cases op with
  | decideMessage ctx content now order =>
    rw [Op.clock_eq rfl] at hle ⊢
    obtain ⟨hdecision, hnext⟩ := @Alike.decide _ _ _ _ _ _ _ ctx nfkc content order h hle
    refine ⟨?_, hnext⟩
    unfold decided
    simp only
    rw [hdecision, (h.screened_eq hle).1]
  | recordHttpStatus status now =>
    rw [Op.clock_eq rfl] at hle ⊢
    have hnow := h.mono hle
    exact ⟨rfl, h.analyzer, h.analyzerState, h.detector, h.botConfig, h.runtime, h.suspiciousCfg,
      h.sessionBudget, hnow.guard, h.breaker.record status hle, hnow.failures, hnow.bucket, hnow.user,
      hnow.channel, hnow.guild, hnow.global⟩
  | setModeOverride mode => exact ⟨rfl, h.obey fun o => { o with modeOverride := mode }⟩
  | setEmergencyKillSwitch enabled =>
    exact ⟨rfl, h.obey fun o => { o with emergencyKillSwitch := enabled }⟩
  | setAccessLists ag dg ac dc =>
    exact ⟨rfl, h.obey fun o => { o with
      allowGuildIds := ag, denyGuildIds := dg, allowChannelIds := ac, denyChannelIds := dc }⟩
  | setSuspiciousThresholds soft hard rep =>
    exact ⟨rfl, h.obey fun o => { o with suspiciousCfg := ⟨soft, hard, max rep 1⟩ }⟩
  | resetSuspiciousThresholds =>
    refine ⟨rfl, ?_⟩
    have hreset := h.obey fun o => { o with suspiciousCfg := ⟨b.runtime.longMessageSoftChars,
      b.runtime.longMessageHardChars, max b.runtime.suspiciousRepetitionThreshold 1⟩ }
    have ha : a.step nfkc .resetSuspiciousThresholds = a.obey { a.orders with
        suspiciousCfg := ⟨b.runtime.longMessageSoftChars, b.runtime.longMessageHardChars,
          max b.runtime.suspiciousRepetitionThreshold 1⟩ } := by
      rw [← h.runtime]
      rfl
    rw [ha]
    exact hreset
  | updateSessionBudget total remaining reset =>
    refine ⟨rfl, ?_⟩
    have hbudget := h.obey fun o => { o with sessionBudget :=
      (SessionBudget.new total remaining reset b.runtime.sessionBudgetLowWatermark) }
    have ha : a.step nfkc (.updateSessionBudget total remaining reset) = a.obey { a.orders with
        sessionBudget :=
          (SessionBudget.new total remaining reset b.runtime.sessionBudgetLowWatermark) } := by
      rw [← h.runtime]
      rfl
    rw [ha]
    exact hbudget
  | recordReconnectAttempt => exact ⟨rfl, h.withBooks _ _ _ _⟩
  | recordResumeFailure => exact ⟨rfl, h.withBooks _ _ _ _⟩

end Alike

end TrustedCore

/-! ### What is over -/

/-- What lies further back than the window is dropped. -/
theorem trimFront_eq_nil {window : Duration} {now : Instant} {l : List Instant}
    (h : ∀ s ∈ l, window < durationSince now s) : trimFront window now l = [] := by
  induction l with
  | nil => rfl
  | cons s l ih =>
    rw [trimFront, if_pos (h s (List.mem_cons_self ..))]
    exact ih fun s' hs' => h s' (List.mem_cons_of_mem s hs')

theorem lt_durationSince {t s now : Instant} {window : Duration} (hs : s ≤ t)
    (h : t + window < now) : window < durationSince now s := by
  refine Nat.lt_sub_of_add_lt (lt_of_le_of_lt ?_ h)
  rw [Nat.add_comm]
  exact Nat.add_le_add_right hs window

/-- Cooldowns that are over are those of a new map. -/
theorem CooldownMap.Follows.alike_new {marks : List Mark} {ttl : Duration} {t wake : Instant}
    {m : CooldownMap} (h : m.Follows marks ttl t) (hover : t + ttl ≤ wake) :
    m.Alike wake (CooldownMap.new ttl) where
  ttl := h.ttl_eq
  cooling key now hnow := by
    have hle : t ≤ now := (Nat.le_add_right t ttl).trans (hover.trans hnow)
    refine (h.not_cooling hle).2 ?_
    rintro ⟨u, hu, hlt⟩
    have hearly : now < t + ttl := lt_of_lt_of_le hlt (Nat.add_le_add_right (h.past _ hu) ttl)
    exact absurd hearly (not_lt.2 (hover.trans hnow))

/-- A breaker whose failures are old, and whose pause is over, is as good as new. -/
theorem HttpCircuitBreaker.Tracks.alike_new {window openFor : Duration} {threshold : ℕ}
    {calls : List StatusCall} {b : HttpCircuitBreaker} {t wake : Instant}
    (h : b.Tracks window threshold openFor calls) (hpast : ∀ call ∈ calls, call.2 ≤ t)
    (hold : t + window < wake) (hclosed : t + openFor ≤ wake) :
    b.Alike wake (HttpCircuitBreaker.new window threshold openFor) where
  window := h.window_eq
  threshold := h.threshold_eq
  openFor := h.openFor_eq
  isOpen now hnow := by
    have hle : ∀ call ∈ calls, call.2 ≤ now := fun call hcall =>
      (hpast call hcall).trans ((Nat.le_add_right t openFor).trans (hclosed.trans hnow))
    have hshut : b.isOpen now = false := by
      rw [← Bool.not_eq_true, h.isOpen_iff now hle]
      intro htripped
      exact absurd (htripped.lt_add hpast) (not_lt.2 (hclosed.trans hnow))
    exact hshut
  failures now hnow := by
    obtain ⟨last, -, hfailures⟩ := h.failures
    refine trimFront_eq_nil fun s hs => ?_
    rw [hfailures] at hs
    obtain ⟨call, hcall, rfl⟩ := List.mem_map.1 (List.mem_of_mem_filter hs)
    exact lt_durationSince (hpast call (List.mem_of_mem_filter hcall)) (hold.trans_le hnow)

/-- A guard whose marks are old is empty once it evicts. -/
theorem DuplicateGuard.evictOld_eq_new {ttl : Duration} {cap : ℕ} {g : DuplicateGuard}
    {now : Instant} (httl : g.ttl = ttl) (hcap : g.cap = max cap 64)
    (hold : ∀ m u, g.seen.get? m = some u → ttl < durationSince now u) :
    g.evictOld now = (DuplicateGuard.new ttl cap).evictOld now := by
  obtain ⟨gttl, gcap, seen⟩ := g
  simp only at httl hcap hold
  subst httl hcap
  have hnone : seen.entries.filter (fun e => decide (durationSince now e.2 ≤ gttl)) = [] := by
    refine List.filter_eq_nil_iff.2 ?_
    rintro ⟨m, u⟩ he
    have hlt := hold m u (KeyMap.get?_eq_some_iff.2 he)
    simpa using hlt
  unfold evictOld DuplicateGuard.new KeyMap.retain KeyMap.empty
  simp only [hnone, List.filter_nil]

/-- Neither the capacity nor the rate of a bucket changes. -/
theorem Ledger.bucket_fixed {F σ : Type} [F64 F] (l : Ledger F σ) :
    l.bucket.capacity = F64.ofNat (max l.runtime.globalRateBurst 1) ∧
      l.bucket.refillPerSec = F64.max l.runtime.globalRatePerSec F64.tenth := by
  unfold bucket
  generalize hb : TokenBucket.new l.runtime.globalRateBurst l.runtime.globalRatePerSec l.opened = b
  have hinit : b.capacity = F64.ofNat (max l.runtime.globalRateBurst 1) ∧
      b.refillPerSec = F64.max l.runtime.globalRatePerSec F64.tenth := by
    rw [← hb]
    exact ⟨rfl, rfl⟩
  refine Runs.run_inv (I := fun b : TokenBucket F =>
    b.capacity = F64.ofNat (max l.runtime.globalRateBurst 1) ∧
      b.refillPerSec = F64.max l.runtime.globalRatePerSec F64.tenth) ?_ hinit l.requests
  intro b t h
  unfold TokenBucket.tryTake TokenBucket.refill
  simp only
  split_ifs <;> exact h

namespace TrustedCore

variable {σ : Type}

/-- A new core with the settings of this one. -/
def rebuilt {F : Type} [F64 F] (self : TrustedCore F σ) (now : Instant) : TrustedCore F σ :=
  { newWithDetector self.analyzer self.analyzerState self.detector self.botConfig self.runtime now with
    suspiciousCfg := self.suspiciousCfg
    sessionBudget := self.sessionBudget }

/-- The clock of the core stands at `t`; at `wake` everything that it keeps is over. -/
structure Quiet (core : TrustedCore ℚ σ) (t wake : Instant) : Prop where
  marks : t + fromMillis core.runtime.duplicateTtlMs < wake
  failures : t + fromMillis core.runtime.sandboxFailureWindowMs < wake
  refusals : t + fromMillis core.runtime.breakerWindowMs < wake
  breaker : t + fromMillis core.runtime.breakerOpenMs ≤ wake
  user : t + fromMillis core.runtime.perUserCooldownMs ≤ wake
  channel : t + fromMillis core.runtime.perChannelCooldownMs ≤ wake
  guild : t + fromMillis core.runtime.perGuildCooldownMs ≤ wake
  global : t + fromMillis core.runtime.globalCooldownMs ≤ wake
  bucket : max 1 (core.runtime.globalRateBurst : ℚ) ≤
    max (1 / 10) core.runtime.globalRatePerSec * (seconds wake - seconds t)

/-- A bucket that had the time fills up. -/
theorem refill_full {b : TokenBucket ℚ} {cap rate : ℚ} {t wake now : Instant} {taken : List Instant}
    (h : Metered cap rate t taken b) (hrate : 0 ≤ rate)
    (htime : cap ≤ rate * (seconds wake - seconds t)) (hle : t ≤ wake) (hnow : wake ≤ now) :
    b.refill now = ⟨cap, rate, cap, now⟩ := by
  have hfull : b.tokens ≤ b.capacity := by
    rw [h.capacity]
    exact h.exact.accounts.le_cap
  rw [refill_eq (h.last_le.trans (hle.trans hnow)) hfull, h.capacity, h.refillPerSec]
  congr 1
  refine min_eq_right ?_
  -- what has flowed in since the clock stopped is enough
  have hlast := seconds_le.2 h.last_le
  have hwake := seconds_le.2 hnow
  have hflow : rate * (seconds wake - seconds t) ≤ (seconds now - seconds b.lastRefill) * rate := by
    rw [mul_comm]
    exact mul_le_mul_of_nonneg_right (by linarith) hrate
  have hnonneg := h.exact.accounts.nonneg
  linarith

/-- A core that was left alone is alike to a new one. -/
theorem alike_rebuilt {t wake : Instant} {l : Ledger ℚ σ} {core : TrustedCore ℚ σ}
    {cap rate : ℚ} {taken : List Instant} (h : Ledger.Records t l core)
    (hmetered : Metered cap rate t taken core.outboundBucket) (hquiet : core.Quiet t wake) :
    Alike wake core (core.rebuilt wake) := by
  have hle : t ≤ wake := (Nat.le_add_right t _).trans hquiet.user
  have hrun := h.runtime
  refine ⟨rfl, rfl, rfl, rfl, rfl, rfl, rfl, ?_, ?_, ?_, ?_, ?_, ?_, ?_, ?_⟩
  · intro now hnow
    have hmarks := hquiet.marks
    rw [hrun] at hmarks
    have hguard : core.duplicateGuard.evictOld now = (DuplicateGuard.new
        (fromMillis l.runtime.duplicateTtlMs) l.runtime.duplicateCacheCap).evictOld now := by
      refine DuplicateGuard.evictOld_eq_new h.guard.ttl_eq h.guard.cap_eq fun m u hu => ?_
      exact lt_durationSince (h.seen_past (m, u) (mem_of_lastMark (h.guard.last m u hu)))
        (hmarks.trans_le hnow)
    rw [hguard, ← hrun]
    rfl
  · have hrefusals := hquiet.refusals
    have hopen := hquiet.breaker
    rw [hrun] at hrefusals hopen
    have hbreaker := h.breaker.alike_new h.statuses_past hrefusals hopen
    rw [← hrun] at hbreaker
    exact hbreaker
  · intro now hnow
    have hfailures := hquiet.failures
    show trimFront (fromMillis core.runtime.sandboxFailureWindowMs) now core.sandboxFailures = []
    rw [h.failures.window] at hfailures ⊢
    rw [h.failures.kept now (hle.trans hnow)]
    exact trimFront_eq_nil fun s hs =>
      lt_durationSince (h.failures.past s hs) (hfailures.trans_le hnow)
  · intro now hnow
    obtain ⟨hcap, hrate⟩ := l.bucket_fixed
    rw [← h.bucket, ← hrun] at hcap hrate
    have hnonneg : (0 : ℚ) ≤ rate := by
      rw [← hmetered.refillPerSec, hrate]
      have htenth : (0 : ℚ) ≤ 1 / 10 := by norm_num
      exact le_max_of_le_right htenth
    have hcap' : cap = max 1 (core.runtime.globalRateBurst : ℚ) := by
      rw [← hmetered.capacity, hcap, max_comm (1 : ℚ)]
      show ((max core.runtime.globalRateBurst 1 : ℕ) : ℚ) = _
      rw [Nat.cast_max, Nat.cast_one]
    have hrate' : rate = max (1 / 10) core.runtime.globalRatePerSec := by
      rw [← hmetered.refillPerSec, hrate, max_comm (1 / 10 : ℚ)]
      rfl
    have htime := hquiet.bucket
    rw [← hcap', ← hrate'] at htime
    rw [refill_full hmetered hnonneg htime hle hnow]
    -- a new bucket is full from the start
    have hnew : (core.rebuilt wake).outboundBucket = ⟨cap, rate, cap, wake⟩ := by
      rw [← hmetered.capacity, ← hmetered.refillPerSec, hcap, hrate]
      rfl
    rw [hnew, refill_eq hnow (le_refl cap)]
    congr 1
    refine (min_eq_right ?_).symm
    have hflow : 0 ≤ (seconds now - seconds wake) * rate :=
      mul_nonneg (sub_nonneg.2 (seconds_le.2 hnow)) hnonneg
    linarith
  · have huser := hquiet.user
    rw [hrun] at huser
    have hcool := h.user.alike_new huser
    rw [← hrun] at hcool
    exact hcool
  · have hchannel := hquiet.channel
    rw [hrun] at hchannel
    have hcool := h.channel.alike_new hchannel
    rw [← hrun] at hcool
    exact hcool
  · have hguild := hquiet.guild
    rw [hrun] at hguild
    have hcool := h.guild.alike_new hguild
    rw [← hrun] at hcool
    exact hcool
  · have hglobal := hquiet.global
    rw [hrun] at hglobal
    have hcool := h.global.alike_new hglobal
    rw [← hrun] at hcool
    exact hcool

/-- **A core that was left alone starts afresh.**  After any run at non-decreasing instants and a pause
in which every ttl, window, cooldown and pause of the breaker runs out and the bucket fills up, the core
decides every further run as a new one with the same settings and the same analyzer does. -/
theorem quiet_core_forgets (nfkc : Text → Text) (analyzer : ProposalAnalyzer σ) (analyzerState : σ)
    (detector : MessageDetector) (botConfig : BotConfig) (runtime : RuntimeProtectionConfig ℚ)
    (start : Instant) (ops : List Op) (hops : Runs.Clocked Op.instant? start ops)
    (core : TrustedCore ℚ σ)
    (hcore : core = reached nfkc analyzer analyzerState detector botConfig runtime start ops)
    (wake : Instant) (hquiet : core.Quiet (ops.foldl (Runs.clock Op.instant?) start) wake)
    (later : List Op) (hlater : Runs.Clocked Op.instant? wake later) :
    decisions nfkc core later = decisions nfkc (core.rebuilt wake) later := by
  obtain ⟨l, hrecords⟩ := Ledger.exists_records nfkc analyzer analyzerState detector botConfig runtime
    start hops
  have hmetered := metered_reached nfkc analyzer analyzerState detector botConfig runtime start hops
  rw [← hcore] at hrecords hmetered
  exact Runs.trace_congr (fun _ _ _ op hle h => h.step nfkc op hle)
    (alike_rebuilt hrecords hmetered hquiet) hlater

/-- Ten minutes after two messages, a third one. -/
def laterMessage : List Op :=
  [.decideMessage firstMessage "oo".toList 600000000000 (.listed _ _)]

theorem quiet_core_forgets_reactingCore :
    decisions id (Runs.run (step id) reactingCore twoMessages) laterMessage =
      decisions id ((Runs.run (step id) reactingCore twoMessages).rebuilt 600000000000)
        laterMessage := by
  refine quiet_core_forgets id _ () _ canonicalBotConfig (defaultRuntimeProtectionConfig ℚ) 0
    twoMessages twoMessages_clocked _ rfl 600000000000 ?_ laterMessage
    (by simp [Runs.Clocked, laterMessage, Op.instant?])
  refine ⟨?_, ?_, ?_, ?_, ?_, ?_, ?_, ?_, ?_⟩
  all_goals decide +kernel

end TrustedCore

end OoBot
