import OoBot.Security.Transitions

/-!
# What a message that is held back costs

The last step of a decision asks the limiters one after the other, and some of them change when they
are asked.

* The guild is marked before the global cooldown is looked at: `cooldown_frame_iff` says when a
  rejected cooldown check leaves the cooldowns alone.
* The token is taken before the number of actions and the cooldowns are looked at:
  `token_kept_iff` says when a decision to do nothing leaves the bucket alone.
-/

namespace OoBot

/-! ### Cooldowns -/

/-- The same cooldowns, whatever the order of the entries. -/
structure CooldownMap.Same (a b : CooldownMap) : Prop where
  ttl : a.ttl = b.ttl
  entries : ∀ key, a.nextAllowed.get? key = b.nextAllowed.get? key

theorem CooldownMap.Same.refl (a : CooldownMap) : a.Same a := ⟨rfl, fun _ => rfl⟩

/-- A mark changes nothing exactly when the key was marked like that before. -/
theorem CooldownMap.mark_same_iff (a : CooldownMap) (key : UInt64) (now : Instant) :
    (a.mark key now).Same a ↔ a.nextAllowed.get? key = some (now + a.ttl) := by
  constructor
  · intro h
    rw [← h.entries key, CooldownMap.mark, KeyMap.get?_insert, if_pos rfl]
  · refine fun h => ⟨rfl, fun key' => ?_⟩
    rw [CooldownMap.mark, KeyMap.get?_insert]
    split_ifs with hkey
    · rw [hkey, h]
    · rfl

namespace TrustedCore

variable {F σ : Type}

/-- The four cooldowns of two states are the same. -/
structure SameCooldowns (a b : TrustedCore F σ) : Prop where
  user : a.userCooldown.Same b.userCooldown
  channel : a.channelCooldown.Same b.channelCooldown
  guild : a.guildCooldown.Same b.guildCooldown
  global : a.globalCooldown.Same b.globalCooldown

theorem SameCooldowns.refl (a : TrustedCore F σ) : a.SameCooldowns a :=
  ⟨.refl _, .refl _, .refl _, .refl _⟩

/-- The guild of the message is marked, for longer than before, though the global cooldown is
running. -/
structure MarkedInVain (core : TrustedCore F σ) (ctx : MessageContext) (now : Instant) : Prop where
  user : core.userCooldown.isCooling ctx.authorId now = false
  channel : core.channelCooldown.isCooling ctx.channelId now = false
  guild : ∃ g, ctx.guildId = some g ∧ core.guildCooldown.isCooling g now = false ∧
    core.guildCooldown.nextAllowed.get? g ≠ some (now + core.guildCooldown.ttl)
  globally : core.globalCooldown.isCooling 0 now = true

/-- A check that rejects leaves the cooldowns alone, but for a guild that is marked in vain. -/
theorem cooldownAllows_same_iff (self : TrustedCore F σ) (ctx : MessageContext) (now : Instant)
    (h : (self.cooldownAllows ctx now).1 = false) :
    (self.cooldownAllows ctx now).2.SameCooldowns self ↔ ¬ self.MarkedInVain ctx now := by
  have hself := SameCooldowns.refl self
  unfold cooldownAllows at h ⊢
  cases hu : self.userCooldown.isCooling ctx.authorId now with
  | true =>
    simp only [if_true]
    exact iff_of_true hself fun hv => by simp [hv.user] at hu
  | false =>
    cases hc : self.channelCooldown.isCooling ctx.channelId now with
    | true =>
      simp only [Bool.false_eq_true, if_false, if_true]
      exact iff_of_true hself fun hv => by simp [hv.channel] at hc
    | false =>
      cases hid : ctx.guildId with
      | none =>
        -- without a guild nothing is marked before the last check
        cases hg : self.globalCooldown.isCooling 0 now with
        | false => simp [hu, hc, hid, hg] at h
        | true =>
          simp only [Bool.false_eq_true, if_false, hg, if_true]
          refine iff_of_true hself fun hv => ?_
          obtain ⟨g, hg', -⟩ := hv.guild
          simp [hid] at hg'
      | some g =>
        cases hgc : self.guildCooldown.isCooling g now with
        | true =>
          simp only [Bool.false_eq_true, if_false, hgc, if_true]
          refine iff_of_true hself fun hv => ?_
          obtain ⟨g', hg', hfree, -⟩ := hv.guild
          rw [hid] at hg'
          cases hg'
          simp [hfree] at hgc
        | false =>
          cases hg : self.globalCooldown.isCooling 0 now with
          | false => simp [hu, hc, hid, hgc, hg] at h
          | true =>
            simp only [Bool.false_eq_true, if_false, hgc, hg, if_true]
            have hmark := self.guildCooldown.mark_same_iff g now
            constructor
            · rintro hsame ⟨-, -, ⟨g', hg', -, hne⟩, -⟩
              rw [hid] at hg'
              cases hg'
              exact hne (hmark.1 hsame.guild)
            · intro hnot
              refine ⟨.refl _, .refl _, hmark.2 ?_, .refl _⟩
              by_contra hne
              exact hnot ⟨hu, hc, ⟨g, hid, hgc, hne⟩, hg⟩

/-- Where the guild is marked in vain the check rejects. -/
theorem MarkedInVain.rejected {self : TrustedCore F σ} {ctx : MessageContext} {now : Instant}
    (h : self.MarkedInVain ctx now) : (self.cooldownAllows ctx now).1 = false := by
  rw [← Bool.not_eq_true, cooldownAllows_eq_true_iff]
  intro hnot
  have := hnot.globally
  rw [h.globally] at this
  cases this

variable [F64 F]

/-- A decision with the reason `cooldown` leaves the cooldowns alone, but for a guild that is marked in
vain. -/
theorem decideMessage_same_iff {nfkc : Text → Text} {self : TrustedCore F σ} {ctx : MessageContext}
    {content : Text} {now : Instant} {order : IterOrder UInt64 Instant}
    (h : (self.decideMessage nfkc ctx content now order).1.suppressReason = some .cooldown) :
    (self.decideMessage nfkc ctx content now order).2.SameCooldowns self ↔
      ¬ self.MarkedInVain ctx now := by
  obtain ⟨mode, metrics, heq⟩ := self.decideMessage_eq_outcome nfkc ctx content now order
  rw [heq] at h ⊢
  unfold outcome at h ⊢
  split_ifs at h ⊢ with h₁ h₂
  · exact absurd (Option.some.inj h) (self.screenReason_ne ctx now).2
  · cases h
  · unfold settle at h ⊢
    split_ifs at h ⊢ with hc hmode hsusp hout hb ht ha hcool
    all_goals try cases h
    · -- the cooldowns are those of the state before the decision
      have hframe := cooldownAllows_same_iff ((self.asked nfkc ctx content now order).afterTake now)
        ctx now (by simpa using hcool)
      constructor
      · intro hsame hv
        exact hframe.1 ⟨hsame.user, hsame.channel, hsame.guild, hsame.global⟩
          ⟨hv.user, hv.channel, hv.guild, hv.globally⟩
      · intro hnot
        have hsame := hframe.2 fun hv => hnot ⟨hv.user, hv.channel, hv.guild, hv.globally⟩
        exact ⟨hsame.user, hsame.channel, hsame.guild, hsame.global⟩

/-- **When a rejected cooldown check changes nothing.**  Exactly when no guild is marked in vain; and so
for every decision with the reason `cooldown`. -/
theorem cooldown_frame_iff (nfkc : Text → Text) (self : TrustedCore F σ) (ctx : MessageContext)
    (content : Text) (now : Instant) (order : IterOrder UInt64 Instant) :
    (((self.cooldownAllows ctx now).1 = false →
          (self.cooldownAllows ctx now).2.SameCooldowns self) ↔ ¬ self.MarkedInVain ctx now) ∧
      ((self.decideMessage nfkc ctx content now order).1.suppressReason = some .cooldown →
        ((self.decideMessage nfkc ctx content now order).2.SameCooldowns self ↔
          ¬ self.MarkedInVain ctx now)) := by
  refine ⟨⟨fun h hv => ?_, fun hnot hrej => ?_⟩, decideMessage_same_iff⟩
  · exact (self.cooldownAllows_same_iff ctx now hv.rejected).1 (h hv.rejected) hv
  · exact (self.cooldownAllows_same_iff ctx now hrej).2 hnot

/-- A core that has just reacted to a message. -/
def servedCore : TrustedCore ℚ Unit :=
  Runs.run (step id) reactingCore [.decideMessage firstMessage "oo".toList 0 (.listed _ _)]

/-- A message to another guild, while the global cooldown of the first one runs. -/
def otherGuild : MessageContext := ⟨9, 5, 6, some 7, false⟩

/-- It is held back by the global cooldown, and its guild is marked all the same. -/
theorem cooldown_marks_guild :
    (servedCore.decideMessage id otherGuild "oo".toList 50000000 (.listed _ _)).1.suppressReason =
        some .cooldown ∧
      (servedCore.cooldownAllows otherGuild 50000000).1 = false ∧
      servedCore.guildCooldown.nextAllowed.get? 7 = none ∧
      (servedCore.cooldownAllows otherGuild 50000000).2.guildCooldown.nextAllowed.get? 7 =
        some 300000000 ∧
      (servedCore.decideMessage id otherGuild "oo".toList 50000000
        (.listed _ _)).2.guildCooldown.nextAllowed.get? 7 = some 300000000 := by
  decide +kernel

/-! ### The bucket -/

end TrustedCore

namespace TokenBucket

variable {F : Type} [F64 F] {b : TokenBucket F} {now : Instant}

/-- A request that is refused only fills the bucket up. -/
theorem tryTake_of_refused (h : ¬ F64.le (F64.ofNat 1) (b.refill now).tokens = true) :
    (b.tryTake 1 now).2 = b.refill now := by
  unfold tryTake
  simp only
  exact congrArg Prod.snd (if_neg h)

variable [CountingF64 F]

/-- A bucket that was filled up at an instant is not filled up further at it. -/
theorem refill_eq_self {b' : TokenBucket F} (h : b'.lastRefill = (b.refill now).lastRefill) :
    b'.refill now = b' := by
  have hzero : F64.le (F64.ofNanos (durationSince now now) : F) (F64.ofNat 0) = true := by
    unfold durationSince
    rw [Nat.sub_self]
    exact CountingF64.ofNanos_zero
  unfold refill at h ⊢
  simp only at h ⊢
  split_ifs at h with he
  · rw [h, if_pos he]
  · rw [h, if_pos hzero]

/-- The balance is at most the capacity, and this a whole number. -/
structure Bounded (cap : ℕ) (b : TokenBucket F) : Prop where
  capacity : b.capacity = F64.ofNat cap
  tokens : F64.le b.tokens b.capacity = true

theorem Bounded.refill {cap : ℕ} (h : b.Bounded cap) (now : Instant) :
    (b.refill now).Bounded cap := by
  have hcap : F64.le b.capacity b.capacity = true := by
    rw [h.capacity]
    exact LawfulF64.ofNat_le (Nat.le_refl cap)
  unfold TokenBucket.refill
  simp only
  split_ifs
  · exact h
  · exact ⟨h.capacity, CountingF64.min_le_right hcap⟩

theorem Bounded.tryTake {cap : ℕ} (h : b.Bounded cap) (now : Instant) :
    (b.tryTake 1 now).2.Bounded cap := by
  have hfull := h.refill now
  unfold TokenBucket.tryTake
  simp only
  split_ifs with hle
  · exact ⟨hfull.capacity, LawfulF64.le_trans (CountingF64.sub_one_le hle) hfull.tokens⟩
  · exact hfull

/-- A token that is taken is missed. -/
theorem tryTake_refill_ne {cap : ℕ} (h : b.Bounded cap) (hcap : cap ≤ 2 ^ 32)
    (htoken : F64.le (F64.ofNat 1) (b.refill now).tokens = true) :
    (b.tryTake 1 now).2.refill now ≠ b.refill now := by
  have hgranted : (b.tryTake 1 now).1 = true := (tryTake_eq_true_iff b 1 now).2 htoken
  have hlast : (b.tryTake 1 now).2.lastRefill = (b.refill now).lastRefill := by
    unfold tryTake
    simp only
    split_ifs <;> rfl
  have hle : F64.le (b.refill now).tokens (F64.ofNat (2 ^ 32) : F) = true := by
    have hfull := h.refill now
    refine LawfulF64.le_trans hfull.tokens ?_
    rw [hfull.capacity]
    exact LawfulF64.ofNat_le hcap
  rw [refill_eq_self hlast]
  intro heq
  have htokens := tryTake_tokens hgranted
  rw [heq, Nat.max_self] at htokens
  exact CountingF64.sub_one_ne htoken hle htokens.symm

end TokenBucket

namespace TrustedCore

variable {F σ : Type} [F64 F]

/-- The last step asks for a token exactly where an action was compiled and the breaker is closed. -/
theorem finalize_bucket (self : TrustedCore F σ) (ctx : MessageContext) (proposal : ActionProposal)
    (suspicion : SuspicionLevel) (mode : RuntimeMode) (now : Instant)
    (detection : Option DetectionReport) :
    (self.finalize ctx proposal suspicion mode now detection).2.outboundBucket =
      if self.compiled proposal suspicion mode detection ≠ .noop ∧ self.breaker.isOpen now = false
      then (self.outboundBucket.tryTake 1 now).2 else self.outboundBucket := by
  have hcool := cooldownAllows_bucket (self.afterTake now) ctx now
  rw [finalize_eq]
  by_cases hc : self.compiled proposal suspicion mode detection = .noop
  · have hno : ¬ (self.compiled proposal suspicion mode detection ≠ .noop ∧
        self.breaker.isOpen now = false) := fun h => h.1 hc
    rw [if_pos hc, if_neg hno]
    split_ifs <;> rfl
  · rw [if_neg hc]
    by_cases hb : self.breaker.isOpen now = true
    · have hno : ¬ (self.compiled proposal suspicion mode detection ≠ .noop ∧
          self.breaker.isOpen now = false) := fun h => Bool.false_ne_true (h.2.symm.trans hb)
      rw [if_pos hb, if_neg hno]
      rfl
    · have hyes : self.compiled proposal suspicion mode detection ≠ .noop ∧
          self.breaker.isOpen now = false := ⟨hc, by simpa using hb⟩
      rw [if_neg hb, if_pos hyes]
      split_ifs
      all_goals first | rfl | exact hcool

/-- A token is taken for a message that a later limiter stops. -/
structure TokenWasted (nfkc : Text → Text) (core : TrustedCore F σ) (ctx : MessageContext)
    (content : Text) (now : Instant) : Prop where
  admitted : core.Admitted ctx now
  response : core.response nfkc content now ≠ .noop
  breaker : core.breaker.isOpen now = false
  token : F64.le (F64.ofNat 1) (core.outboundBucket.refill now).tokens = true
  stopped : core.runtime.maxActionsPerMessage = 0 ∨ ¬ core.NotCooling ctx now

section Decide

variable {nfkc : Text → Text} {self : TrustedCore F σ} {ctx : MessageContext} {content : Text}
  {now : Instant} {order : IterOrder UInt64 Instant}

/-- What a decision does with the bucket. -/
theorem decideMessage_bucket :
    (self.Admitted ctx now ∧ self.response nfkc content now ≠ .noop ∧
        self.breaker.isOpen now = false ∧
        (self.decideMessage nfkc ctx content now order).2.outboundBucket =
          (self.outboundBucket.tryTake 1 now).2) ∨
      (¬ (self.Admitted ctx now ∧ self.response nfkc content now ≠ .noop ∧
          self.breaker.isOpen now = false) ∧
        (self.decideMessage nfkc ctx content now order).2.outboundBucket =
          self.outboundBucket) := by
  rcases decideMessage_cases nfkc self ctx content now order with
    ⟨hn, core, reason, hcore, heq⟩ | ⟨hadm, core, hcore, -, heq⟩
  · refine Or.inr ⟨fun h => hn h.1, ?_⟩
    rw [heq]
    exact hcore.outboundBucket
  · have hresp : core.compiled (self.proposalFor nfkc content)
        (classifySuspiciousInput nfkc content self.suspiciousCfg) (self.effectiveMode now)
        (some (self.detector content)) = self.response nfkc content now := hcore.compiled_eq _ _ _ _
    rw [heq, finalize_bucket, hresp, hcore.breaker, hcore.outboundBucket]
    split_ifs with h
    · exact Or.inl ⟨hadm, h.1, h.2, rfl⟩
    · exact Or.inr ⟨fun h' => h h'.2, rfl⟩

/-- Where a token is wasted nothing is done. -/
theorem TokenWasted.noop (h : self.TokenWasted nfkc ctx content now) :
    (self.decideMessage nfkc ctx content now order).1.action = .noop := by
  rw [decideMessage_noop_iff]
  rintro ⟨-, hpass, -⟩
  rcases h.stopped with hzero | hcool
  · exact hpass.actions hzero
  · exact hcool hpass.cooldown

theorem TokenWasted.bucket (h : self.TokenWasted nfkc ctx content now) :
    (self.decideMessage nfkc ctx content now order).2.outboundBucket =
      (self.outboundBucket.tryTake 1 now).2 := by
  rcases @decideMessage_bucket _ _ _ nfkc self ctx content now order with
    ⟨-, -, -, heq⟩ | ⟨hn, -⟩
  · exact heq
  · exact absurd ⟨h.admitted, h.response, h.breaker⟩ hn

/-- Elsewhere a decision to do nothing fills the bucket up at most. -/
theorem refill_of_noop [CountingF64 F]
    (hnoop : (self.decideMessage nfkc ctx content now order).1.action = .noop)
    (h : ¬ self.TokenWasted nfkc ctx content now) :
    (self.decideMessage nfkc ctx content now order).2.outboundBucket.refill now =
      self.outboundBucket.refill now := by
  rcases @decideMessage_bucket _ _ _ nfkc self ctx content now order with
    ⟨hadm, hresp, hb, heq⟩ | ⟨-, heq⟩
  · rw [heq]
    by_cases htoken : F64.le (F64.ofNat 1) (self.outboundBucket.refill now).tokens = true
    · -- with a token at hand only a later limiter could have stopped the message
      exfalso
      refine h ⟨hadm, hresp, hb, htoken, ?_⟩
      by_contra hgo
      obtain ⟨hact, hcool⟩ := not_or.1 hgo
      exact decideMessage_noop_iff.1 hnoop ⟨hadm, ⟨hb, htoken, hact, not_not.1 hcool⟩, hresp⟩
    · rw [TokenBucket.tryTake_of_refused htoken]
      exact TokenBucket.refill_eq_self rfl
  · rw [heq]

end Decide

/-- The balance of every core that is reached is bounded by the burst. -/
theorem bounded_reached [CountingF64 F] (nfkc : Text → Text) (analyzer : ProposalAnalyzer σ)
    (analyzerState : σ) (detector : MessageDetector) (botConfig : BotConfig)
    (runtime : RuntimeProtectionConfig F) (start : Instant) (ops : List Op) :
    (reached nfkc analyzer analyzerState detector botConfig runtime start
      ops).outboundBucket.Bounded (max runtime.globalRateBurst 1) := by
  refine Runs.run_inv (I := fun core : TrustedCore F σ =>
    core.outboundBucket.Bounded (max runtime.globalRateBurst 1)) ?_ ?_ ops
  · intro core op h
    have hbucket : (core.step nfkc op).outboundBucket = core.outboundBucket ∨
        ∃ now, (core.step nfkc op).outboundBucket = (core.outboundBucket.tryTake 1 now).2 := by
      cases op with
      | decideMessage ctx content now order =>
        rcases @decideMessage_bucket _ _ _ nfkc core ctx content now order with
          ⟨-, -, -, heq⟩ | ⟨-, heq⟩
        · exact Or.inr ⟨now, heq⟩
        · exact Or.inl heq
      | _ => exact Or.inl rfl
    rcases hbucket with heq | ⟨now, heq⟩
    · rw [heq]
      exact h
    · rw [heq]
      exact h.tryTake now
  · exact ⟨rfl, LawfulF64.ofNat_le (Nat.le_refl _)⟩

/-- **When a decision to do nothing spends nothing.**  In every state that a core reaches, with any
analyzer and any detector: after a decision to do nothing the bucket is what filling up alone would make
of it, unless the message is stopped by the limiters that are asked after the bucket; then exactly one
token is taken. -/
theorem token_kept_iff [CountingF64 F] (nfkc : Text → Text) (analyzer : ProposalAnalyzer σ)
    (analyzerState : σ) (detector : MessageDetector) (botConfig : BotConfig)
    (runtime : RuntimeProtectionConfig F) (hburst : runtime.globalRateBurst < 2 ^ 32)
    (start : Instant) (ops : List Op) (core : TrustedCore F σ)
    (hcore : core = reached nfkc analyzer analyzerState detector botConfig runtime start ops)
    (ctx : MessageContext) (content : Text) (now : Instant) (order : IterOrder UInt64 Instant) :
    (((core.decideMessage nfkc ctx content now order).1.action = .noop →
          (core.decideMessage nfkc ctx content now order).2.outboundBucket.refill now =
            core.outboundBucket.refill now) ↔ ¬ core.TokenWasted nfkc ctx content now) ∧
      (core.TokenWasted nfkc ctx content now →
        (core.decideMessage nfkc ctx content now order).1.action = .noop ∧
          (core.decideMessage nfkc ctx content now order).2.outboundBucket.tokens =
            F64.sub (core.outboundBucket.refill now).tokens (F64.ofNat 1)) := by
  have hbounded := bounded_reached nfkc analyzer analyzerState detector botConfig runtime start ops
  rw [← hcore] at hbounded
  refine ⟨⟨fun h hw => ?_, fun hnot hnoop => refill_of_noop hnoop hnot⟩, fun hw => ⟨hw.noop, ?_⟩⟩
  · have hrefill := h hw.noop
    rw [hw.bucket] at hrefill
    exact TokenBucket.tryTake_refill_ne hbounded (by omega) hw.token hrefill
  · rw [hw.bucket]
    exact TokenBucket.tryTake_tokens ((TokenBucket.tryTake_eq_true_iff _ _ _).2 hw.token)

/-- A second message of the author, a microsecond after the first. -/
def hastyMessage : MessageContext := { firstMessage with messageId := 9 }

/-- It is held back by the cooldown of its author, and takes a token. -/
theorem token_wasted_on_cooldown :
    (servedCore.decideMessage id hastyMessage "oo".toList 1000 (.listed _ _)).1.action = .noop ∧
      (servedCore.decideMessage id hastyMessage "oo".toList 1000 (.listed _ _)).1.suppressReason =
        some .cooldown ∧
      ((servedCore.decideMessage id hastyMessage "oo".toList 1000
          (.listed _ _)).2.outboundBucket.refill 1000).tokens + 1 =
        (servedCore.outboundBucket.refill 1000).tokens := by
  decide +kernel

/-- The same message meets the condition. -/
theorem token_kept_iff_servedCore :
    servedCore.TokenWasted id hastyMessage "oo".toList 1000 ∧
      (servedCore.decideMessage id hastyMessage "oo".toList 1000 (.listed _ _)).1.action = .noop ∧
      (servedCore.decideMessage id hastyMessage "oo".toList 1000 (.listed _ _)).2.outboundBucket.tokens =
        F64.sub (servedCore.outboundBucket.refill 1000).tokens (F64.ofNat 1) := by
  obtain ⟨hkept, hspent⟩ := token_kept_iff id _ () _ canonicalBotConfig (defaultRuntimeProtectionConfig ℚ)
    (by decide) 0 [.decideMessage firstMessage "oo".toList 0 (.listed _ _)] servedCore rfl hastyMessage
    "oo".toList 1000 (.listed _ _)
  have hwasted : servedCore.TokenWasted id hastyMessage "oo".toList 1000 := by
    by_contra hnot
    have hrefill := congrArg TokenBucket.tokens (hkept.2 hnot (by decide +kernel))
    revert hrefill
    decide +kernel
  exact ⟨hwasted, hspent hwasted⟩

end TrustedCore

end OoBot
