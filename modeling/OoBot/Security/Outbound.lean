import OoBot.Lib.Bucket
import OoBot.Security.Transitions

/-!
# How often a core acts

Over any run at non-decreasing instants, with any analyzer:

* the outbound decisions of a window are no more than the bucket holds and gains in it
  (`outbound_rate_bound`);
* two outbound decisions keep the distance of every cooldown that they share (`cooldown_spacing`).

Both follow from what one decision does to the limiters, `LimitStep`.
-/

namespace OoBot

/-! ### Cooldowns -/

namespace CooldownMap

/-- The key stays closed at least until `until`. -/
def HeldUntil (self : CooldownMap) (key : UInt64) (until' : Instant) : Prop :=
  ∃ next, self.nextAllowed.get? key = some next ∧ until' ≤ next

variable {self : CooldownMap} {key key' : UInt64} {now t : Instant}

theorem heldUntil_mark : (self.mark key now).HeldUntil key (now + self.ttl) := by
  refine ⟨now + self.ttl, ?_, le_refl _⟩
  rw [mark, KeyMap.get?_insert, if_pos rfl]

/-- A later mark does not open a key earlier. -/
theorem HeldUntil.mark (h : self.HeldUntil key t) (hle : t ≤ now + self.ttl) :
    (self.mark key' now).HeldUntil key t := by
  obtain ⟨next, hnext, ht⟩ := h
  unfold HeldUntil CooldownMap.mark
  simp only [KeyMap.get?_insert]
  by_cases hkey : key = key'
  · rw [if_pos hkey]
    exact ⟨now + self.ttl, rfl, hle⟩
  · rw [if_neg hkey]
    exact ⟨next, hnext, ht⟩

/-- A key that is not cooling is no longer held. -/
theorem HeldUntil.le_now (h : self.HeldUntil key t) (hcool : self.isCooling key now = false) :
    t ≤ now := by
  obtain ⟨next, hnext, ht⟩ := h
  unfold isCooling at hcool
  rw [hnext] at hcool
  exact ht.trans (by simpa using hcool)

end CooldownMap

namespace TrustedCore

section Spacing

variable {F σ : Type}

/-- The distance that two outbound decisions keep. -/
structure Spaced (runtime : RuntimeProtectionConfig F) (e₁ e₂ : Decided) : Prop where
  global : e₁.now + fromMillis runtime.globalCooldownMs ≤ e₂.now
  user : e₁.ctx.authorId = e₂.ctx.authorId →
    e₁.now + fromMillis runtime.perUserCooldownMs ≤ e₂.now
  channel : e₁.ctx.channelId = e₂.ctx.channelId →
    e₁.now + fromMillis runtime.perChannelCooldownMs ≤ e₂.now
  guild : ∀ g, e₁.ctx.guildId = some g → e₂.ctx.guildId = some g →
    e₁.now + fromMillis runtime.perGuildCooldownMs ≤ e₂.now

/-- The limiters still hold what an outbound decision closed. -/
structure Closed (e : Decided) (l : Limits F) : Prop where
  user : l.user.HeldUntil e.ctx.authorId (e.now + l.user.ttl)
  channel : l.channel.HeldUntil e.ctx.channelId (e.now + l.channel.ttl)
  guild : ∀ g, e.ctx.guildId = some g → l.guild.HeldUntil g (e.now + l.guild.ttl)
  global : l.global.HeldUntil 0 (e.now + l.global.ttl)

/-- The lengths of the cooldowns. -/
structure Ttls (runtime : RuntimeProtectionConfig F) (l : Limits F) : Prop where
  user : l.user.ttl = fromMillis runtime.perUserCooldownMs
  channel : l.channel.ttl = fromMillis runtime.perChannelCooldownMs
  guild : l.guild.ttl = fromMillis runtime.perGuildCooldownMs
  global : l.global.ttl = fromMillis runtime.globalCooldownMs

variable {runtime : RuntimeProtectionConfig F} {ctx : MessageContext} {now : Instant}
  {l l' : Limits F} {out : Bool} {e : Decided}

theorem Ttls.markGuild (h : Ttls runtime l) : Ttls runtime (l.markGuild ctx now) := by
  unfold Limits.markGuild
  cases ctx.guildId with
  | none => exact h
  | some g => exact ⟨h.user, h.channel, h.guild, h.global⟩

theorem Closed.markGuild (h : Closed e l) (hle : e.now ≤ now) : Closed e (l.markGuild ctx now) := by
  unfold Limits.markGuild
  cases ctx.guildId with
  | none => exact h
  | some g =>
    exact ⟨h.user, h.channel,
      fun g' hg' => (h.guild g' hg').mark (Nat.add_le_add_right hle l.guild.ttl), h.global⟩

variable [F64 F]

theorem LimitStep.ttls (hstep : LimitStep ctx now l out l') (h : Ttls runtime l) :
    Ttls runtime l' := by
  cases hstep with
  | held => exact h
  | spent => exact ⟨h.user, h.channel, h.guild, h.global⟩
  | cooling => exact Ttls.markGuild ⟨h.user, h.channel, h.guild, h.global⟩
  | sent =>
    have hg : Ttls runtime (l.markGuild ctx now) := h.markGuild
    exact ⟨h.user, h.channel, hg.guild, h.global⟩

/-- What an earlier decision closed stays closed. -/
theorem LimitStep.closed (hstep : LimitStep ctx now l out l') (h : Closed e l) (hle : e.now ≤ now) :
    Closed e l' := by
  cases hstep with
  | held => exact h
  | spent => exact ⟨h.user, h.channel, h.guild, h.global⟩
  | cooling => exact Closed.markGuild ⟨h.user, h.channel, h.guild, h.global⟩ hle
  | sent =>
    exact
      { user := h.user.mark (Nat.add_le_add_right hle l.user.ttl)
        channel := h.channel.mark (Nat.add_le_add_right hle l.channel.ttl)
        guild := (h.markGuild hle).guild
        global := h.global.mark (Nat.add_le_add_right hle l.global.ttl) }

/-- An outbound decision closes the keys of its message. -/
theorem LimitStep.closes (hstep : LimitStep e.ctx e.now l true l') : Closed e l' := by
  cases hstep with
  | sent =>
    refine ⟨CooldownMap.heldUntil_mark, CooldownMap.heldUntil_mark, ?_, CooldownMap.heldUntil_mark⟩
    intro g hg
    unfold Limits.markGuild
    rw [hg]
    exact CooldownMap.heldUntil_mark

/-- An outbound decision keeps its distance from every earlier one. -/
theorem LimitStep.spaced {e₁ e₂ : Decided} (hstep : LimitStep e₂.ctx e₂.now l true l')
    (httl : Ttls runtime l) (h : Closed e₁ l) : Spaced runtime e₁ e₂ := by
  cases hstep with
  | sent granted user channel guild global =>
    refine ⟨?_, fun hkey => ?_, fun hkey => ?_, fun g h₁ h₂ => ?_⟩
    · rw [← httl.global]
      exact h.global.le_now global
    · rw [← httl.user]
      exact h.user.le_now (by rw [hkey]; exact user)
    · rw [← httl.channel]
      exact h.channel.le_now (by rw [hkey]; exact channel)
    · rw [← httl.guild]
      exact (h.guild g h₁).le_now (guild g h₂)

/-- Every operation takes a step of the limiters, or leaves them. -/
theorem step_limits (nfkc : Text → Text) (core : TrustedCore F σ) (op : Op) :
    (∃ e, core.decided nfkc op = some e ∧ op.instant? = some e.now ∧
        LimitStep e.ctx e.now core.limits e.outbound (core.step nfkc op).limits) ∨
      (core.decided nfkc op = none ∧ (core.step nfkc op).limits = core.limits) := by
  cases op with
  | decideMessage ctx content now order =>
    obtain ⟨mode, metrics, heq⟩ := core.decideMessage_eq_outcome nfkc ctx content now order
    have hstep := core.outcome_limits nfkc ctx content now order
    refine Or.inl ⟨_, rfl, rfl, ?_⟩
    unfold Decided.outbound step
    simp only [heq]
    exact hstep
  | _ => exact Or.inr ⟨rfl, rfl⟩

/-- What the limiters know about the decisions so far. -/
structure Remembers (runtime : RuntimeProtectionConfig F) (t : Instant) (h : List Decided)
    (core : TrustedCore F σ) : Prop where
  past : ∀ e ∈ h, e.now ≤ t
  ttls : Ttls runtime core.limits
  closed : ∀ e ∈ h, e.outbound = true → Closed e core.limits
  spaced : h.Pairwise fun e₁ e₂ => e₁.outbound = true → e₂.outbound = true → Spaced runtime e₁ e₂

theorem Remembers.step {t : Instant} {h : List Decided} {core : TrustedCore F σ}
    (hr : Remembers runtime t h core) (nfkc : Text → Text) (op : Op)
    (hle : t ≤ Runs.clock Op.instant? t op) :
    Remembers runtime (Runs.clock Op.instant? t op) (h ++ (core.decided nfkc op).toList)
      (core.step nfkc op) := by
  rcases core.step_limits nfkc op with ⟨e, hdec, hinst, hstep⟩ | ⟨hdec, hsame⟩
  · rw [Op.clock_eq hinst] at hle ⊢
    rw [hdec, Option.toList_some]
    have hpast : ∀ e' ∈ h, e'.now ≤ e.now := fun e' he' => (hr.past e' he').trans hle
    refine ⟨le_now_concat hpast, hstep.ttls hr.ttls, ?_, ?_⟩
    · intro e' he' hout
      rcases List.mem_append.1 he' with he' | he'
      · exact hstep.closed (hr.closed e' he' hout) (hpast e' he')
      · rw [List.mem_singleton.1 he'] at hout ⊢
        rw [hout] at hstep
        exact hstep.closes
    · refine List.pairwise_append.2 ⟨hr.spaced, List.pairwise_singleton _ _, ?_⟩
      intro e₁ he₁ e₂ he₂ hout₁ hout₂
      rw [List.mem_singleton.1 he₂] at hout₂ ⊢
      rw [hout₂] at hstep
      exact hstep.spaced hr.ttls (hr.closed e₁ he₁ hout₁)
  · rw [hdec, Option.toList_none, List.append_nil]
    refine ⟨fun e he => (hr.past e he).trans hle, ?_, ?_, hr.spaced⟩
    · rw [hsame]
      exact hr.ttls
    · intro e he hout
      rw [hsame]
      exact hr.closed e he hout

/-- **Cooldown spacing.**  In every run at non-decreasing instants, two outbound decisions keep the
global cooldown between them, and that of an author, a channel or a guild that they share. -/
theorem cooldown_spacing (nfkc : Text → Text) (analyzer : ProposalAnalyzer σ) (analyzerState : σ)
    (detector : MessageDetector) (botConfig : BotConfig) (runtime : RuntimeProtectionConfig F)
    (start : Instant) (ops : List Op) (hops : Runs.Clocked Op.instant? start ops) :
    (decisions nfkc (newWithDetector analyzer analyzerState detector botConfig runtime start)
      ops).Pairwise
      fun e₁ e₂ => e₁.outbound = true → e₂.outbound = true → Spaced runtime e₁ e₂ := by
  have hinit : Remembers runtime start []
      (newWithDetector analyzer analyzerState detector botConfig runtime start) :=
    ⟨by simp, ⟨rfl, rfl, rfl, rfl⟩, by simp, List.Pairwise.nil⟩
  have hrun := Runs.timed_inv (I := Remembers runtime)
    (fun _ _ _ op hle hr => hr.step nfkc op hle) hinit hops
  exact hrun.spaced

theorem cooldown_spacing_twoMessages :
    (decisions id reactingCore twoMessages).Pairwise fun e₁ e₂ => e₁.outbound = true →
      e₂.outbound = true → Spaced (defaultRuntimeProtectionConfig ℚ) e₁ e₂ :=
  cooldown_spacing id _ () _ canonicalBotConfig (defaultRuntimeProtectionConfig ℚ) 0 twoMessages
    twoMessages_clocked

end Spacing

/-! ### The bucket -/

section Bucket

open Bucket

/-- An instant in seconds. -/
def seconds (t : Instant) : ℚ := F64.ofNanos t

theorem seconds_le {s t : Instant} : seconds s ≤ seconds t ↔ s ≤ t := by
  have hpos : (0 : ℚ) < 1000000000 := by norm_num
  show (s : ℚ) / 1000000000 ≤ (t : ℚ) / 1000000000 ↔ s ≤ t
  rw [div_le_div_iff_of_pos_right hpos, Nat.cast_le]

theorem seconds_durationSince {s t : Instant} (h : s ≤ t) :
    (F64.ofNanos (durationSince t s) : ℚ) = seconds t - seconds s := by
  show ((t - s : ℕ) : ℚ) / 1000000000 = (t : ℚ) / 1000000000 - (s : ℚ) / 1000000000
  rw [Nat.cast_sub h, sub_div]

/-- The accounts of the bucket of a core, at the instant `t`, after the decisions `h`. -/
structure Balanced (cap rate : ℚ) (t : Instant) (h : List Decided) (b : TokenBucket ℚ) : Prop where
  capacity : b.capacity = cap
  refillPerSec : b.refillPerSec = rate
  last_le : b.lastRefill ≤ t
  accounts : Accounts cap rate ((h.filter Decided.outbound).map fun e => seconds e.now)
    (seconds b.lastRefill) b.tokens

variable {cap rate : ℚ} {t now : Instant} {h : List Decided} {b : TokenBucket ℚ}

/-- Filling up brings the accounts to the present. -/
theorem Balanced.refill (hb : Balanced cap rate t h b) (hrate : 0 ≤ rate) (hle : t ≤ now) :
    Balanced cap rate now h (b.refill now) ∧ (b.refill now).lastRefill = now := by
  have hlast := hb.last_le.trans hle
  have hsecs := seconds_durationSince hlast
  have helapsed : F64.le (F64.ofNanos (durationSince now b.lastRefill) : ℚ) (F64.ofNat 0) = true ↔
      now ≤ b.lastRefill := by
    rw [hsecs, ← seconds_le, ← sub_nonpos (a := seconds now)]
    show decide (seconds now - seconds b.lastRefill ≤ ((0 : ℕ) : ℚ)) = true ↔ _
    rw [decide_eq_true_eq, Nat.cast_zero]
  unfold TokenBucket.refill
  simp only
  by_cases hnow : now ≤ b.lastRefill
  · rw [if_pos (helapsed.2 hnow)]
    exact ⟨⟨hb.capacity, hb.refillPerSec, hlast, hb.accounts⟩, le_antisymm hlast hnow⟩
  · rw [if_neg (fun he => hnow (helapsed.1 he))]
    refine ⟨⟨hb.capacity, hb.refillPerSec, le_refl now, ?_⟩, rfl⟩
    show Accounts cap rate _ (seconds now) (min (b.tokens +
      F64.ofNanos (durationSince now b.lastRefill) * b.refillPerSec) b.capacity)
    rw [hsecs, hb.refillPerSec, hb.capacity]
    exact hb.accounts.refill hrate (seconds_le.2 hlast)

/-- A request that is refused only fills up; one that is granted takes a token for its decision. -/
theorem Balanced.tryTake (hb : Balanced cap rate t h b) (hrate : 0 ≤ rate) {e : Decided}
    (hle : t ≤ e.now) (hgranted : e.outbound = true → (b.tryTake 1 e.now).1 = true) :
    Balanced cap rate e.now (h ++ [e]) (b.tryTake 1 e.now).2 := by
  obtain ⟨hfull, hlast⟩ := hb.refill hrate hle
  have haccounts := hfull.accounts
  rw [hlast] at haccounts
  have hiff := TokenBucket.tryTake_eq_true_iff b 1 e.now
  unfold TokenBucket.tryTake at hgranted hiff ⊢
  simp only at hgranted hiff ⊢
  split_ifs with hle'
  · have hone : (1 : ℚ) ≤ (b.refill e.now).tokens := by
      change decide (((max 1 1 : ℕ) : ℚ) ≤ (b.refill e.now).tokens) = true at hle'
      simpa using hle'
    refine ⟨hfull.capacity, hfull.refillPerSec, hfull.last_le, ?_⟩
    show Accounts cap rate _ (seconds (b.refill e.now).lastRefill)
      ((b.refill e.now).tokens - ((max 1 1 : ℕ) : ℚ))
    rw [max_self, Nat.cast_one, hlast, List.filter_append, List.map_append]
    cases hout : e.outbound with
    | true =>
      simpa [hout] using haccounts.take hrate hone
    | false =>
      -- the token is spent on a decision that a later limiter stops
      simpa [hout] using haccounts.lose hone
  · have hout : e.outbound = false := by
      rw [← Bool.not_eq_true]
      intro hout
      have hgranted' := hgranted hout
      rw [if_neg hle'] at hgranted'
      cases hgranted'
    refine ⟨hfull.capacity, hfull.refillPerSec, hfull.last_le, ?_⟩
    rw [hlast]
    simpa [hout] using haccounts

/-- A decision that no token is asked for. -/
theorem Balanced.idle (hb : Balanced cap rate t h b) {e : Decided} (hle : t ≤ e.now)
    (hout : e.outbound = false) : Balanced cap rate e.now (h ++ [e]) b := by
  refine ⟨hb.capacity, hb.refillPerSec, hb.last_le.trans hle, ?_⟩
  simpa [hout] using hb.accounts

theorem Limits.markGuild_bucket {F : Type} (l : Limits F) (ctx : MessageContext) (now : Instant) :
    (l.markGuild ctx now).bucket = l.bucket := by
  unfold Limits.markGuild
  cases ctx.guildId <;> rfl

theorem Balanced.step {σ : Type} {core : TrustedCore ℚ σ}
    (hb : Balanced cap rate t h core.outboundBucket) (hrate : 0 ≤ rate) (nfkc : Text → Text)
    (op : Op) (hle : t ≤ Runs.clock Op.instant? t op) :
    Balanced cap rate (Runs.clock Op.instant? t op) (h ++ (core.decided nfkc op).toList)
      (core.step nfkc op).outboundBucket := by
  rcases core.step_limits nfkc op with ⟨e, hdec, hinst, hstep⟩ | ⟨hdec, hsame⟩
  · rw [Op.clock_eq hinst] at hle ⊢
    rw [hdec, Option.toList_some]
    have htake := fun hgranted => hb.tryTake hrate (e := e) hle hgranted
    show Balanced cap rate e.now (h ++ [e]) (core.step nfkc op).limits.bucket
    generalize hl : (core.step nfkc op).limits = l' at hstep
    generalize hout : e.outbound = out at hstep
    cases hstep with
    | held => exact hb.idle hle hout
    | spent => exact htake (by simp [hout])
    | cooling =>
      rw [Limits.markGuild_bucket]
      exact htake (by simp [hout])
    | sent granted => exact htake (fun _ => granted)
  · have hbucket : (core.step nfkc op).outboundBucket = core.outboundBucket :=
      congrArg Limits.bucket hsame
    rw [hdec, Option.toList_none, List.append_nil, hbucket]
    exact ⟨hb.capacity, hb.refillPerSec, hb.last_le.trans hle, hb.accounts⟩

/-- **The global outbound rate.**  In every run at non-decreasing instants, a window holds at most as
many outbound decisions as the bucket holds tokens and gains in the window; and the balance stays
between nothing and the capacity. -/
theorem outbound_rate_bound {σ : Type} (nfkc : Text → Text) (analyzer : ProposalAnalyzer σ)
    (analyzerState : σ) (detector : MessageDetector) (botConfig : BotConfig)
    (runtime : RuntimeProtectionConfig ℚ) (start : Instant) (ops : List Op)
    (hops : Runs.Clocked Op.instant? start ops) :
    (∀ s t, s ≤ t →
      (((decisions nfkc (newWithDetector analyzer analyzerState detector botConfig runtime start)
          ops).countP fun e => e.outbound ∧ s ≤ e.now ∧ e.now ≤ t : ℕ) : ℚ) ≤
        max 1 (runtime.globalRateBurst : ℚ) +
          max (1 / 10) runtime.globalRatePerSec * (seconds t - seconds s)) ∧
      0 ≤ (reached nfkc analyzer analyzerState detector botConfig runtime start
        ops).outboundBucket.tokens ∧
      (reached nfkc analyzer analyzerState detector botConfig runtime start
          ops).outboundBucket.tokens ≤
        (reached nfkc analyzer analyzerState detector botConfig runtime start
          ops).outboundBucket.capacity := by
  have hrate : (0 : ℚ) ≤ max (1 / 10) runtime.globalRatePerSec :=
    le_max_of_le_left (by norm_num)
  have hcap : (0 : ℚ) ≤ max 1 (runtime.globalRateBurst : ℚ) := le_max_of_le_left zero_le_one
  have hinit : Balanced (max 1 (runtime.globalRateBurst : ℚ)) (max (1 / 10) runtime.globalRatePerSec)
      start []
      (newWithDetector analyzer analyzerState detector botConfig runtime start).outboundBucket := by
    -- the bucket starts full, and nothing is taken from it
    have hfull : ((max runtime.globalRateBurst 1 : ℕ) : ℚ) = max 1 (runtime.globalRateBurst : ℚ) := by
      rw [Nat.cast_max, Nat.cast_one, max_comm]
    refine ⟨hfull, max_comm _ _, le_refl start, ?_⟩
    show Accounts _ _ [] _ ((max runtime.globalRateBurst 1 : ℕ) : ℚ)
    rw [hfull]
    exact accounts_full hcap hrate
  have hrun : Balanced _ _ _ (decisions nfkc
      (newWithDetector analyzer analyzerState detector botConfig runtime start) ops)
      (reached nfkc analyzer analyzerState detector botConfig runtime start ops).outboundBucket :=
    Runs.timed_inv (I := fun t h (core : TrustedCore ℚ σ) => Balanced _ _ t h core.outboundBucket)
      (fun _ _ _ op hle hb => hb.step hrate nfkc op hle) hinit hops
  refine ⟨fun s t hst => ?_, hrun.accounts.nonneg, ?_⟩
  · -- what the bucket gave out in the window are the outbound decisions in it
    have hwindow := hrun.accounts.window _ _ (seconds_le.2 hst)
    rw [List.countP_map, List.countP_filter] at hwindow
    refine le_of_eq_of_le (congrArg Nat.cast (List.countP_congr fun e _ => ?_)) hwindow
    simp [seconds_le, and_comm]
  · rw [hrun.capacity]
    exact hrun.accounts.le_cap

theorem outbound_rate_bound_twoMessages :
    (∀ s t, s ≤ t →
      (((decisions id reactingCore twoMessages).countP fun e =>
          e.outbound ∧ s ≤ e.now ∧ e.now ≤ t : ℕ) : ℚ) ≤
        max 1 ((30 : ℕ) : ℚ) + max (1 / 10) ((20 : ℕ) : ℚ) * (seconds t - seconds s)) ∧
      0 ≤ (Runs.run (step id) reactingCore twoMessages).outboundBucket.tokens ∧
      (Runs.run (step id) reactingCore twoMessages).outboundBucket.tokens ≤
        (Runs.run (step id) reactingCore twoMessages).outboundBucket.capacity :=
  outbound_rate_bound id _ () _ canonicalBotConfig (defaultRuntimeProtectionConfig ℚ) 0 twoMessages
    twoMessages_clocked

end Bucket

end TrustedCore

end OoBot
