import OoBot.Security.Outbound
import OoBot.Security.Spending

/-!
# What the bucket refuses

The bucket keeps one number.  It says as much as the whole history does: a token is refused exactly when
some window that ends now would hold more tokens than a full bucket and what flows in
(`rate_limit_exact`).  The tokens of a run are those of the outbound decisions, and those that were taken
for messages which a later limiter stopped.
-/

namespace OoBot

namespace TrustedCore

open Bucket

variable {F σ : Type}

section Tokens

variable [F64 F]

/-- A decision that comes as far as the bucket. -/
def asksToken (nfkc : Text → Text) (self : TrustedCore F σ) (ctx : MessageContext) (content : Text)
    (now : Instant) (order : IterOrder UInt64 Instant) : Bool :=
  self.screened ctx now && !(self.duplicateGuard.isDuplicateAndMark ctx.messageId now order).1 &&
    decide (self.response nfkc content now ≠ .noop) && !self.breaker.isOpen now

/-- The instant of a decision that takes a token. -/
def tokenAt (nfkc : Text → Text) (self : TrustedCore F σ) : Op → Option Instant
  | .decideMessage ctx content now order =>
      if self.asksToken nfkc ctx content now order && (self.outboundBucket.tryTake 1 now).1 then
        some now
      else none
  | _ => none

/-- The instants at which tokens were taken in a run. -/
abbrev tokens (nfkc : Text → Text) (self : TrustedCore F σ) (ops : List Op) : List Instant :=
  Runs.trace (step nfkc) (tokenAt nfkc) self ops

variable {nfkc : Text → Text} {self : TrustedCore F σ} {ctx : MessageContext} {content : Text}
  {now : Instant} {order : IterOrder UInt64 Instant}

omit [F64 F] in
theorem asksToken_iff : self.asksToken nfkc ctx content now order = true ↔
    self.Admitted ctx now ∧ self.response nfkc content now ≠ .noop ∧
      self.breaker.isOpen now = false := by
  unfold asksToken
  rw [self.admitted_iff ctx now order]
  simp only [Bool.and_eq_true, Bool.not_eq_true', decide_eq_true_eq, and_assoc]

/-- Such a decision asks the bucket, and no other one touches it. -/
theorem decideMessage_bucket_eq :
    (self.decideMessage nfkc ctx content now order).2.outboundBucket =
      if self.asksToken nfkc ctx content now order then (self.outboundBucket.tryTake 1 now).2
      else self.outboundBucket := by
  rcases @decideMessage_bucket _ _ _ nfkc self ctx content now order with
    ⟨hadm, hresp, hopen, heq⟩ | ⟨hnot, heq⟩
  · rw [heq, if_pos (asksToken_iff.2 ⟨hadm, hresp, hopen⟩)]
  · rw [heq, if_neg (mt asksToken_iff.1 hnot)]

omit [F64 F] in
/-- A message that the first guards stop is not stopped for its rate. -/
theorem screenReason_ne_rateLimit : self.screenReason ctx now ≠ .rateLimit := by
  unfold screenReason
  split_ifs <;> decide

theorem settle_rateLimit_iff {proposal : ActionProposal} {suspicion : SuspicionLevel}
    {mode : RuntimeMode} {detection : Option DetectionReport} :
    (self.settle ctx proposal suspicion mode now detection).1.suppressReason = some .rateLimit ↔
      self.compiled proposal suspicion mode detection ≠ .noop ∧ self.breaker.isOpen now = false ∧
        (self.outboundBucket.tryTake 1 now).1 = false := by
  unfold settle dropped
  split_ifs <;> simp_all

/-- **The reason is the rate** exactly where the bucket is asked and refuses. -/
theorem rateLimit_iff :
    (self.decideMessage nfkc ctx content now order).1.suppressReason = some .rateLimit ↔
      self.asksToken nfkc ctx content now order = true ∧
        (self.outboundBucket.tryTake 1 now).1 = false := by
  obtain ⟨mode, metrics, heq⟩ := self.decideMessage_eq_outcome nfkc ctx content now order
  rw [heq]
  unfold outcome asksToken
  cases self.screened ctx now with
  | false =>
    refine iff_of_false ?_ (by simp)
    intro h
    exact screenReason_ne_rateLimit (Option.some.inj h)
  | true =>
    cases (self.duplicateGuard.isDuplicateAndMark ctx.messageId now order).1 with
    | true => exact iff_of_false (by simp [dropped]) (by simp)
    | false =>
      have hresp : (self.asked nfkc ctx content now order).compiled (self.proposalFor nfkc content)
          (classifySuspiciousInput nfkc content self.suspiciousCfg) (self.effectiveMode now)
          (some (self.detector content)) = self.response nfkc content now := rfl
      have hlimits : (self.asked nfkc ctx content now order).breaker = self.breaker ∧
          (self.asked nfkc ctx content now order).outboundBucket = self.outboundBucket := ⟨rfl, rfl⟩
      simp only [Bool.not_true, Bool.not_false, Bool.false_eq_true, if_false, Bool.true_and]
      rw [settle_rateLimit_iff, hresp, hlimits.1, hlimits.2]
      simp [and_assoc]

end Tokens

/-! ### Exact arithmetic -/

/-- Over the rationals, filling up is one equation. -/
theorem refill_eq {b : TokenBucket ℚ} {now : Instant} (hle : b.lastRefill ≤ now)
    (hfull : b.tokens ≤ b.capacity) :
    b.refill now = { b with
      tokens := min (b.tokens + (seconds now - seconds b.lastRefill) * b.refillPerSec) b.capacity
      lastRefill := now } := by
  have hsecs := seconds_durationSince hle
  unfold TokenBucket.refill
  simp only
  rw [hsecs]
  split_ifs with helapsed
  · have hnow : now = b.lastRefill := by
      refine le_antisymm (seconds_le.1 (sub_nonpos.1 ?_)) hle
      have hdec : decide (seconds now - seconds b.lastRefill ≤ ((0 : ℕ) : ℚ)) = true := helapsed
      simpa using hdec
    obtain ⟨capacity, rate, tokens, last⟩ := b
    subst hnow
    simp only [sub_self, zero_mul, add_zero] at hfull ⊢
    rw [min_eq_left hfull]
  · rfl

/-- The bucket of a core at `t`, after the tokens `taken`. -/
structure Metered (cap rate : ℚ) (t : Instant) (taken : List Instant) (b : TokenBucket ℚ) : Prop where
  capacity : b.capacity = cap
  refillPerSec : b.refillPerSec = rate
  last_le : b.lastRefill ≤ t
  exact : Exact cap rate (taken.map seconds) (seconds b.lastRefill) b.tokens

section Metered

variable {cap rate : ℚ} {t now : Instant} {taken : List Instant} {b : TokenBucket ℚ}

theorem Metered.mono (h : Metered cap rate t taken b) (hle : t ≤ now) :
    Metered cap rate now taken b :=
  ⟨h.capacity, h.refillPerSec, h.last_le.trans hle, h.exact⟩

theorem Metered.refill (h : Metered cap rate t taken b) (hrate : 0 ≤ rate) (hle : t ≤ now) :
    Metered cap rate now taken (b.refill now) ∧ (b.refill now).lastRefill = now := by
  have hlast := h.last_le.trans hle
  have hfull : b.tokens ≤ b.capacity := by
    rw [h.capacity]
    exact h.exact.accounts.le_cap
  rw [refill_eq hlast hfull, h.capacity, h.refillPerSec]
  exact ⟨⟨rfl, rfl, le_refl now, h.exact.refill hrate (seconds_le.2 hlast)⟩, rfl⟩

theorem tryTake_one_iff : (b.tryTake 1 now).1 = true ↔ 1 ≤ (b.refill now).tokens := by
  rw [TokenBucket.tryTake_eq_true_iff]
  show decide (((max 1 1 : ℕ) : ℚ) ≤ (b.refill now).tokens) = true ↔ _
  rw [decide_eq_true_eq, max_self, Nat.cast_one]

/-- A request that is granted takes its token; one that is refused fills up only. -/
theorem Metered.tryTake (h : Metered cap rate t taken b) (hrate : 0 ≤ rate) (hle : t ≤ now) :
    Metered cap rate now (taken ++ if (b.tryTake 1 now).1 then [now] else [])
      (b.tryTake 1 now).2 := by
  obtain ⟨hfull, hlast⟩ := h.refill hrate hle
  have hgranted := @tryTake_one_iff now b
  cases htake : (b.tryTake 1 now).1 with
  | true =>
    have hone := hgranted.1 htake
    have hexact := hfull.exact
    rw [hlast] at hexact
    have hnext : (b.tryTake 1 now).2 = { b.refill now with tokens := (b.refill now).tokens - 1 } := by
      have hle' := (TokenBucket.tryTake_eq_true_iff b 1 now).1 htake
      unfold TokenBucket.tryTake
      simp only
      rw [if_pos hle']
      show ({ b.refill now with tokens := (b.refill now).tokens - ((max 1 1 : ℕ) : ℚ) } :
        TokenBucket ℚ) = _
      rw [max_self, Nat.cast_one]
    rw [hnext, if_pos rfl]
    refine ⟨hfull.capacity, hfull.refillPerSec, hfull.last_le, ?_⟩
    rw [List.map_append, hlast]
    exact hexact.take hrate hone
  | false =>
    have hrefused : ¬ F64.le (F64.ofNat 1) (b.refill now).tokens = true := by
      intro hle'
      have htrue := (TokenBucket.tryTake_eq_true_iff b 1 now).2 hle'
      rw [htake] at htrue
      cases htrue
    rw [TokenBucket.tryTake_of_refused hrefused]
    simpa using hfull

/-- What the meter says of a request is what the windows say. -/
theorem Metered.granted_iff (h : Metered cap rate t taken b) (hrate : 0 ≤ rate) (hcap : 1 ≤ cap)
    (hle : t ≤ now) : (b.tryTake 1 now).1 = true ↔
      ∀ s ∈ taken, (taken.countP (s ≤ ·) : ℚ) + 1 ≤ cap + rate * (seconds now - seconds s) := by
  obtain ⟨hfull, hlast⟩ := h.refill hrate hle
  have hholds := hfull.exact.holds_iff hcap
  rw [hlast] at hholds
  rw [tryTake_one_iff, hholds]
  have hcount : ∀ s, (taken.map seconds).countP (seconds s ≤ ·) = taken.countP (s ≤ ·) := by
    intro s
    rw [List.countP_map]
    refine List.countP_congr fun x _ => ?_
    simp [seconds_le]
  rw [List.forall_mem_map]
  refine forall₂_congr fun s _ => ?_
  rw [hcount]

theorem Metered.step {core : TrustedCore ℚ σ} (h : Metered cap rate t taken core.outboundBucket)
    (hrate : 0 ≤ rate) (nfkc : Text → Text) (op : Op) (hle : t ≤ Runs.clock Op.instant? t op) :
    Metered cap rate (Runs.clock Op.instant? t op) (taken ++ (core.tokenAt nfkc op).toList)
      (core.step nfkc op).outboundBucket := by
  cases op with
  | decideMessage ctx content now order =>
    rw [Op.clock_eq rfl] at hle ⊢
    have hbucket : (core.step nfkc (.decideMessage ctx content now order)).outboundBucket = _ :=
      @decideMessage_bucket_eq _ _ _ nfkc core ctx content now order
    rw [hbucket, tokenAt]
    cases core.asksToken nfkc ctx content now order with
    | false => simpa using h.mono hle
    | true =>
      have htake := h.tryTake hrate hle
      cases hgranted : (core.outboundBucket.tryTake 1 now).1 with
      | true => simpa [hgranted] using htake
      | false => simpa [hgranted] using htake
  | _ =>
    rw [show core.tokenAt nfkc _ = none from rfl, Option.toList_none, List.append_nil]
    exact h.mono hle

end Metered

/-- After a run at non-decreasing instants the bucket is metered by the tokens of the run. -/
theorem metered_reached (nfkc : Text → Text) (analyzer : ProposalAnalyzer σ) (analyzerState : σ)
    (detector : MessageDetector) (botConfig : BotConfig) (runtime : RuntimeProtectionConfig ℚ)
    (start : Instant) {ops : List Op} (hops : Runs.Clocked Op.instant? start ops) :
    Metered (max 1 (runtime.globalRateBurst : ℚ)) (max (1 / 10) runtime.globalRatePerSec)
      (ops.foldl (Runs.clock Op.instant?) start)
      (tokens nfkc (newWithDetector analyzer analyzerState detector botConfig runtime start) ops)
      (reached nfkc analyzer analyzerState detector botConfig runtime start ops).outboundBucket := by
  have hrate : (0 : ℚ) ≤ max (1 / 10) runtime.globalRatePerSec :=
    le_max_of_le_left (by norm_num)
  have hinit : Metered (max 1 (runtime.globalRateBurst : ℚ)) (max (1 / 10) runtime.globalRatePerSec)
      start []
      (newWithDetector analyzer analyzerState detector botConfig runtime start).outboundBucket := by
    have hfull : ((max runtime.globalRateBurst 1 : ℕ) : ℚ) = max 1 (runtime.globalRateBurst : ℚ) := by
      rw [Nat.cast_max, Nat.cast_one, max_comm]
    refine ⟨hfull, max_comm _ _, le_refl start, ?_⟩
    show Exact _ _ [] _ ((max runtime.globalRateBurst 1 : ℕ) : ℚ)
    rw [hfull]
    exact exact_full (le_max_of_le_left zero_le_one) hrate
  exact Runs.timed_inv (I := fun t h (core : TrustedCore ℚ σ) => Metered _ _ t h core.outboundBucket)
    (fun _ _ _ op hle hb => hb.step hrate nfkc op hle) hinit hops

/-- **The bucket refuses exactly what no window would bear.**  In every state that a core reaches at
non-decreasing instants: a message is held back for its rate exactly when it comes as far as the bucket,
and with one more token some window from an earlier token to now would hold more than a full bucket and
what has flowed in since. -/
theorem rate_limit_exact (nfkc : Text → Text) (analyzer : ProposalAnalyzer σ) (analyzerState : σ)
    (detector : MessageDetector) (botConfig : BotConfig) (runtime : RuntimeProtectionConfig ℚ)
    (start : Instant) (ops : List Op) (hops : Runs.Clocked Op.instant? start ops)
    (core : TrustedCore ℚ σ)
    (hcore : core = reached nfkc analyzer analyzerState detector botConfig runtime start ops)
    (taken : List Instant) (htaken : taken = tokens nfkc
      (newWithDetector analyzer analyzerState detector botConfig runtime start) ops)
    (ctx : MessageContext) (content : Text) (now : Instant) (order : IterOrder UInt64 Instant)
    (hnow : ops.foldl (Runs.clock Op.instant?) start ≤ now) :
    (core.decideMessage nfkc ctx content now order).1.suppressReason = some .rateLimit ↔
      core.asksToken nfkc ctx content now order = true ∧
        ∃ s ∈ taken, max 1 (runtime.globalRateBurst : ℚ) +
          max (1 / 10) runtime.globalRatePerSec * (seconds now - seconds s) <
            (taken.countP (s ≤ ·) : ℚ) + 1 := by
  have hrate : (0 : ℚ) ≤ max (1 / 10) runtime.globalRatePerSec :=
    le_max_of_le_left (by norm_num)
  have hrun := metered_reached nfkc analyzer analyzerState detector botConfig runtime start hops
  rw [← hcore, ← htaken] at hrun
  rw [rateLimit_iff, ← Bool.not_eq_true (TokenBucket.tryTake _ _ _).1,
    hrun.granted_iff hrate (le_max_left _ _) hnow]
  simp only [not_forall, not_le, exists_prop]

theorem rate_limit_exact_reactingCore :
    ((Runs.run (step id) reactingCore twoMessages).decideMessage id firstMessage "oo".toList 2000000000
        (.listed _ _)).1.suppressReason = some .rateLimit ↔
      (Runs.run (step id) reactingCore twoMessages).asksToken id firstMessage "oo".toList 2000000000
          (.listed _ _) = true ∧
        ∃ s ∈ tokens id reactingCore twoMessages, max 1 ((30 : ℕ) : ℚ) +
          max (1 / 10) ((20 : ℕ) : ℚ) * (seconds 2000000000 - seconds s) <
            ((tokens id reactingCore twoMessages).countP (s ≤ ·) : ℚ) + 1 :=
  rate_limit_exact id _ () _ canonicalBotConfig (defaultRuntimeProtectionConfig ℚ) 0 twoMessages
    twoMessages_clocked _ rfl _ rfl firstMessage "oo".toList 2000000000 (.listed _ _) (by decide)

end TrustedCore

end OoBot
