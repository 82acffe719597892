import OoBot.Security.Transitions

/-!
# Metrics as a fold of the decision log

`RuntimeMetrics` counts in passing, in many places of a decision.  `decideMessage_books` says what one
decision adds, and `metrics_fold` that after any run the counters are counts over the log of its
decisions.

The analyzer is not trusted to count its calls: for the log it is replaced by one that records its own
answers (`recording`), which changes no decision (`withRecord_decision`).
-/

namespace OoBot

/-- What an analyzer answers. -/
abbrev Answer := Except AnalyzerError ActionProposal

/-- The answer is an error. -/
def Answer.isError : Answer → Bool
  | .ok _ => false
  | .error _ => true

/-- The answer is a timeout. -/
def Answer.isTimeout : Answer → Bool
  | .error .timeout => true
  | _ => false

/-- The answer is another error. -/
def Answer.isTrap (a : Answer) : Bool := a.isError && !a.isTimeout

/-! ### Counters -/

/-- A counter that may be increased. -/
def bump (b : Bool) (n : UInt64) : UInt64 := if b then saturatingInc n else n

/-- The counter shows the count, as far as it can. -/
def Shows (n : UInt64) (count : ℕ) : Prop := n.toNat = min count (2 ^ 64 - 1)

theorem shows_zero : Shows 0 0 := rfl

theorem toNat_saturatingInc (n : UInt64) : (saturatingInc n).toNat = min (n.toNat + 1) (2 ^ 64 - 1) := by
  have hlt := n.toNat_lt
  have hmax : (UInt64.ofNat (2 ^ 64 - 1)).toNat = 2 ^ 64 - 1 := rfl
  unfold saturatingInc
  split_ifs with h
  · rw [h, hmax]
    rfl
  · have hne : n.toNat ≠ 2 ^ 64 - 1 := fun heq => h (UInt64.toNat_inj.1 (heq.trans hmax.symm))
    rw [UInt64.toNat_add]
    show (n.toNat + 1) % 2 ^ 64 = _
    omega

theorem Shows.bump {n : UInt64} {count : ℕ} (h : Shows n count) (b : Bool) :
    Shows (OoBot.bump b n) (count + if b then 1 else 0) := by
  unfold Shows at *
  cases b with
  | false => exact h
  | true =>
    show (saturatingInc n).toNat = min (count + 1) _
    rw [toNat_saturatingInc, h]
    omega

/-- Below its end the counter is exact. -/
theorem Shows.exact {n : UInt64} {count : ℕ} (h : Shows n count) (hlt : count < 2 ^ 64) :
    n.toNat = count := by
  unfold Shows at h
  omega

namespace RuntimeMetrics

/-- What recomputing the mode adds. -/
def bookMode (m : RuntimeMetrics) (budgetLow changed : Bool) : RuntimeMetrics :=
  { m with
    sessionBudgetLowTotal := bump budgetLow m.sessionBudgetLowTotal
    modeTransitionsTotal := bump changed m.modeTransitionsTotal }

/-- What asking the analyzer adds. -/
def bookAnswer (m : RuntimeMetrics) (a : Option Answer) : RuntimeMetrics :=
  { m with
    analyzerCallsTotal := bump a.isSome m.analyzerCallsTotal
    analyzerTrapsTotal := bump (a.any Answer.isTrap) m.analyzerTrapsTotal
    analyzerTimeoutTotal := bump (a.any Answer.isTimeout) m.analyzerTimeoutTotal }

@[simp] theorem bookAnswer_none (m : RuntimeMetrics) : m.bookAnswer none = m := rfl

/-- What the outcome of a decision adds. -/
def bookReason (m : RuntimeMetrics) (reason : Option SuppressReason) : RuntimeMetrics :=
  { m with
    messagesDroppedTotal := bump reason.isSome m.messagesDroppedTotal
    duplicateSuppressedTotal := bump (reason == some .duplicate) m.duplicateSuppressedTotal
    outboundSuppressedTotal := bump reason.isSome m.outboundSuppressedTotal
    cooldownHitsTotal := bump (reason == some .cooldown) m.cooldownHitsTotal }

end RuntimeMetrics

namespace TrustedCore

variable {F σ : Type}

/-! ### What one decision adds -/

/-- The answer that the analyzer is asked for. -/
def answerFor (nfkc : Text → Text) (self : TrustedCore F σ) (ctx : MessageContext) (content : Text)
    (now : Instant) (order : IterOrder UInt64 Instant) : Option Answer :=
  if self.screened ctx now && !(self.duplicateGuard.isDuplicateAndMark ctx.messageId now order).1 &&
      decide (classifySuspiciousInput nfkc content self.suspiciousCfg ≠ .hard) then
    some (self.analyzer (request content (self.detector content)) self.analyzerState).1
  else none

/-- The session budget decides about the mode. -/
def budgetLow (self : TrustedCore F σ) (now : Instant) : Bool :=
  decide (((self.trimSandboxFailures now).targetMode now).2 = .sessionBudgetLow)

theorem recomputeMode_books (self : TrustedCore F σ) (now : Instant) :
    (self.recomputeMode now).2.metrics =
        self.metrics.bookMode (self.budgetLow now)
          (decide (self.mode.mode ≠ self.effectiveMode now)) ∧
      (self.recomputeMode now).2.mode.mode = self.effectiveMode now := by
  have hmode := ModeState.transition_mode self.mode (self.effectiveMode now)
    ((self.trimSandboxFailures now).targetMode now).2 now
  have hchanged : (self.mode.transition (self.effectiveMode now)
      ((self.trimSandboxFailures now).targetMode now).2 now).1 =
        decide (self.mode.mode ≠ self.effectiveMode now) := by
    unfold ModeState.transition
    split_ifs with h <;> simp [h]
  unfold recomputeMode budgetLow
  unfold effectiveMode at hmode hchanged ⊢
  simp only
  by_cases hlow : ((self.trimSandboxFailures now).targetMode now).2 = .sessionBudgetLow
  · simp only [if_pos hlow, decide_eq_true hlow]
    split_ifs with hc
    · rw [hchanged.symm.trans hc]
      exact ⟨rfl, hmode⟩
    · rw [hchanged.symm.trans (Bool.eq_false_of_not_eq_true hc)]
      exact ⟨rfl, hmode⟩
  · simp only [if_neg hlow, decide_eq_false hlow]
    split_ifs with hc
    · rw [hchanged.symm.trans hc]
      exact ⟨rfl, hmode⟩
    · rw [hchanged.symm.trans (Bool.eq_false_of_not_eq_true hc)]
      exact ⟨rfl, hmode⟩

/-- A message that is dropped for one of the other reasons adds to the two totals only. -/
theorem dropMessage_books (self : TrustedCore F σ) (mode : RuntimeMode) (proposal : ActionProposal)
    (suspicion : SuspicionLevel) {reason : SuppressReason} (hdup : reason ≠ .duplicate)
    (hcool : reason ≠ .cooldown) : (self.dropMessage mode proposal suspicion reason).2.metrics =
      self.metrics.bookReason (some reason) := by
  have hdup' : (some reason == some SuppressReason.duplicate) = false := by simpa using hdup
  have hcool' : (some reason == some SuppressReason.cooldown) = false := by simpa using hcool
  unfold dropMessage RuntimeMetrics.bookReason
  rw [hdup', hcool']
  rfl

/-- The cooldown step keeps no books. -/
theorem cooldownAllows_books (self : TrustedCore F σ) (ctx : MessageContext) (now : Instant) :
    (self.cooldownAllows ctx now).2.metrics = self.metrics ∧
      (self.cooldownAllows ctx now).2.mode = self.mode := by
  rw [cooldownAllows_frame]
  exact ⟨rfl, rfl⟩

theorem askAnalyzer_books (self : TrustedCore F σ) (req : AnalyzerRequest) (now : Instant) :
    (self.askAnalyzer req now).2.metrics =
        self.metrics.bookAnswer (some (self.analyzer req self.analyzerState).1) ∧
      (self.askAnalyzer req now).2.mode = self.mode := by
  unfold askAnalyzer
  simp only
  cases (self.analyzer req self.analyzerState).1 with
  | ok p => exact ⟨rfl, rfl⟩
  | error err => cases err <;> exact ⟨rfl, rfl⟩

section Books

variable [F64 F] {nfkc : Text → Text} {self : TrustedCore F σ} {ctx : MessageContext}
  {content : Text} {now : Instant} {order : IterOrder UInt64 Instant}

/-- What the last step books is what its decision says. -/
theorem finalize_books (self : TrustedCore F σ) (ctx : MessageContext) (proposal : ActionProposal)
    (suspicion : SuspicionLevel) (mode : RuntimeMode) (now : Instant)
    (detection : Option DetectionReport) :
    (self.finalize ctx proposal suspicion mode now detection).2.metrics =
        self.metrics.bookReason
          (self.finalize ctx proposal suspicion mode now detection).1.suppressReason ∧
      (self.finalize ctx proposal suspicion mode now detection).2.mode = self.mode ∧
      (self.finalize ctx proposal suspicion mode now detection).1.mode = mode := by
  obtain ⟨hmetrics, hmode⟩ := (self.afterTake now).cooldownAllows_books ctx now
  rw [finalize_eq]
  split_ifs
  all_goals try exact ⟨dropMessage_books _ _ _ _ (by decide) (by decide), rfl, rfl⟩
  · exact ⟨rfl, rfl, rfl⟩
  · -- the hit is counted before the message is dropped
    refine ⟨?_, hmode, rfl⟩
    unfold dropMessage
    simp only [hmetrics]
    rfl
  · exact ⟨hmetrics, hmode, rfl⟩

omit [F64 F] in
theorem answerFor_of_not_screened (h : self.screened ctx now = false) :
    self.answerFor nfkc ctx content now order = none := by
  unfold answerFor
  rw [h]
  rfl

omit [F64 F] in
theorem answerFor_of_duplicate
    (h : (self.duplicateGuard.isDuplicateAndMark ctx.messageId now order).1 = true) :
    self.answerFor nfkc ctx content now order = none := by
  unfold answerFor
  rw [h, Bool.not_true, Bool.and_false, Bool.false_and]
  rfl

omit [F64 F] in
/-- A message that comes past the duplicate guard and is not hopeless is asked about. -/
theorem answerFor_of_fresh (hscreen : self.screened ctx now = true)
    (hdup : (self.duplicateGuard.isDuplicateAndMark ctx.messageId now order).1 = false) :
    self.answerFor nfkc ctx content now order =
      if classifySuspiciousInput nfkc content self.suspiciousCfg = .hard then none
      else some (self.analyzer (request content (self.detector content)) self.analyzerState).1 := by
  unfold answerFor
  rw [hscreen, hdup]
  by_cases hhard : classifySuspiciousInput nfkc content self.suspiciousCfg = .hard <;> simp [hhard]

/-- The state in which the analyzer is asked. -/
def beforeAnswer (self : TrustedCore F σ) (ctx : MessageContext) (content : Text) (now : Instant)
    (order : IterOrder UInt64 Instant) : TrustedCore F σ :=
  { (self.recomputeMode now).2 with
    duplicateGuard := (self.duplicateGuard.isDuplicateAndMark ctx.messageId now order).2
    lastDetection := some (self.detector content) }

omit [F64 F] in
theorem beforeAnswer_eq (self : TrustedCore F σ) (ctx : MessageContext) (content : Text)
    (now : Instant) (order : IterOrder UInt64 Instant) :
    (self.beforeAnswer ctx content now order).metrics = (self.recomputeMode now).2.metrics ∧
      (self.beforeAnswer ctx content now order).mode = (self.recomputeMode now).2.mode ∧
      (self.beforeAnswer ctx content now order).analyzer = self.analyzer ∧
      (self.beforeAnswer ctx content now order).analyzerState = self.analyzerState := by
  obtain ⟨mode, metrics, hrec⟩ := self.recomputeMode_eq now
  unfold beforeAnswer
  rw [hrec]
  exact ⟨rfl, rfl, rfl, rfl⟩

/-- A decision on a message that comes past the duplicate guard. -/
theorem decideMessage_of_fresh (hscreen : self.screened ctx now = true)
    (hdup : (self.duplicateGuard.isDuplicateAndMark ctx.messageId now order).1 = false) :
    self.decideMessage nfkc ctx content now order =
      if classifySuspiciousInput nfkc content self.suspiciousCfg = .hard then
        (self.beforeAnswer ctx content now order).finalize ctx .suspiciousInput
          (classifySuspiciousInput nfkc content self.suspiciousCfg) (self.effectiveMode now) now
          (some (self.detector content))
      else
        let asked := (self.beforeAnswer ctx content now order).askAnalyzer
          (request content (self.detector content)) now
        asked.2.finalize ctx asked.1 (classifySuspiciousInput nfkc content self.suspiciousCfg)
          (self.effectiveMode now) now (some (self.detector content)) := by
  rw [decideMessage_eq]
  simp only [hscreen, hdup, Bool.not_true, Bool.false_eq_true, if_false]
  rfl

/-- **What a decision adds to the books**, in all its branches. -/
theorem decideMessage_books (nfkc : Text → Text) (self : TrustedCore F σ) (ctx : MessageContext)
    (content : Text) (now : Instant) (order : IterOrder UInt64 Instant) :
    (self.decideMessage nfkc ctx content now order).2.metrics =
        ((self.metrics.bookMode (self.budgetLow now)
          (decide (self.mode.mode ≠ self.effectiveMode now))).bookAnswer
          (self.answerFor nfkc ctx content now order)).bookReason
          (self.decideMessage nfkc ctx content now order).1.suppressReason ∧
      (self.decideMessage nfkc ctx content now order).2.mode.mode = self.effectiveMode now ∧
      (self.decideMessage nfkc ctx content now order).1.mode = self.effectiveMode now := by
  obtain ⟨hmetrics, hmode⟩ := self.recomputeMode_books now
  rw [← hmetrics]
  cases hscreen : self.screened ctx now with
  | false =>
    rw [decideMessage_eq, hscreen, answerFor_of_not_screened hscreen,
      RuntimeMetrics.bookAnswer_none]
    simp only [Bool.not_false, if_true]
    obtain ⟨hne, hne'⟩ := self.screenReason_ne ctx now
    exact ⟨dropMessage_books _ _ _ _ hne hne', hmode, rfl⟩
  | true =>
    cases hdup : (self.duplicateGuard.isDuplicateAndMark ctx.messageId now order).1 with
    | true =>
      rw [decideMessage_eq, hscreen, hdup, answerFor_of_duplicate hdup,
        RuntimeMetrics.bookAnswer_none]
      simp only [Bool.not_true, Bool.false_eq_true, if_false, if_true]
      exact ⟨rfl, hmode, rfl⟩
    | false =>
      rw [decideMessage_of_fresh hscreen hdup, answerFor_of_fresh hscreen hdup]
      obtain ⟨hcmetrics, hcmode, hcanalyzer, hcstate⟩ := self.beforeAnswer_eq ctx content now order
      rw [← hcmetrics, ← hcanalyzer, ← hcstate]
      rw [← hcmode] at hmode
      generalize self.beforeAnswer ctx content now order = core at hmode
      by_cases hhard : classifySuspiciousInput nfkc content self.suspiciousCfg = .hard
      · obtain ⟨hfin, hfinmode, hfindec⟩ := core.finalize_books ctx .suspiciousInput
          (classifySuspiciousInput nfkc content self.suspiciousCfg) (self.effectiveMode now) now
          (some (self.detector content))
        rw [if_pos hhard, if_pos hhard]
        exact ⟨hfin, (congrArg ModeState.mode hfinmode).trans hmode, hfindec⟩
      · obtain ⟨hask, haskmode⟩ :=
          core.askAnalyzer_books (request content (self.detector content)) now
        simp only [if_neg hhard]
        rw [← hask]
        rw [← haskmode] at hmode
        generalize core.askAnalyzer (request content (self.detector content)) now = asked at hmode
        obtain ⟨hfin, hfinmode, hfindec⟩ := asked.2.finalize_books ctx asked.1
          (classifySuspiciousInput nfkc content self.suspiciousCfg) (self.effectiveMode now) now
          (some (self.detector content))
        exact ⟨hfin, (congrArg ModeState.mode hfinmode).trans hmode, hfindec⟩

end Books

/-! ### The analyzer, recorded -/

/-- An analyzer that writes down what it answers. -/
def recording (analyzer : ProposalAnalyzer σ) : ProposalAnalyzer (σ × List Answer) := fun req s =>
  let (answer, next) := analyzer req s.1
  (answer, next, s.2 ++ [answer])

/-- The core with its analyzer recorded, and nothing written down yet. -/
def withRecord (self : TrustedCore F σ) : TrustedCore F (σ × List Answer) where
  analyzer := recording self.analyzer
  analyzerState := (self.analyzerState, [])
  detector := self.detector
  botConfig := self.botConfig
  runtime := self.runtime
  mode := self.mode
  duplicateGuard := self.duplicateGuard
  breaker := self.breaker
  outboundBucket := self.outboundBucket
  userCooldown := self.userCooldown
  channelCooldown := self.channelCooldown
  guildCooldown := self.guildCooldown
  globalCooldown := self.globalCooldown
  suspiciousCfg := self.suspiciousCfg
  sessionBudget := self.sessionBudget
  sandboxFailures := self.sandboxFailures
  lastDetection := self.lastDetection
  metrics := self.metrics

section Record

variable [F64 F] {nfkc : Text → Text} {self : TrustedCore F σ} {ctx : MessageContext}
  {content : Text} {now : Instant} {order : IterOrder UInt64 Instant}

/-- What the analyzer answers in a decision. -/
def answers (nfkc : Text → Text) (self : TrustedCore F σ) (ctx : MessageContext) (content : Text)
    (now : Instant) (order : IterOrder UInt64 Instant) : List Answer :=
  (self.withRecord.decideMessage nfkc ctx content now order).2.analyzerState.2

/-- The analyzer's own state changes only where the analyzer is asked. -/
theorem outcome_analyzerState :
    (self.outcome nfkc ctx content now order).2.analyzerState =
      if self.screened ctx now &&
          !(self.duplicateGuard.isDuplicateAndMark ctx.messageId now order).1 then
        self.analyzerStateAfter nfkc content
      else self.analyzerState :=
  outcome_frame (fun core => core.analyzerState) (fun _ _ _ _ _ => by rw [settle_frame]) rfl

/-- The analyzer is asked at most once, and answers what it would answer alone. -/
theorem answers_eq (nfkc : Text → Text) (self : TrustedCore F σ) (ctx : MessageContext)
    (content : Text) (now : Instant) (order : IterOrder UInt64 Instant) :
    self.answers nfkc ctx content now order =
      (self.answerFor nfkc ctx content now order).toList := by
  obtain ⟨mode, metrics, heq⟩ := self.withRecord.decideMessage_eq_outcome nfkc ctx content now order
  have hstate : self.answers nfkc ctx content now order =
      (self.withRecord.outcome nfkc ctx content now order).2.analyzerState.2 := by
    unfold answers
    rw [heq]
    rfl
  have hscreened : self.withRecord.screened ctx now = self.screened ctx now := rfl
  have hguard : self.withRecord.duplicateGuard = self.duplicateGuard := rfl
  rw [hstate, outcome_analyzerState, hscreened, hguard]
  cases hscreen : self.screened ctx now with
  | false =>
    rw [answerFor_of_not_screened hscreen]
    rfl
  | true =>
    cases hdup : (self.duplicateGuard.isDuplicateAndMark ctx.messageId now order).1 with
    | true =>
      rw [answerFor_of_duplicate hdup]
      rfl
    | false =>
      rw [answerFor_of_fresh hscreen hdup]
      simp only [Bool.not_false, Bool.and_self, if_true]
      unfold analyzerStateAfter
      have hcfg : self.withRecord.suspiciousCfg = self.suspiciousCfg := rfl
      rw [hcfg]
      split_ifs <;> rfl

/-- Recording the answers changes no decision. -/
theorem withRecord_decision (nfkc : Text → Text) (self : TrustedCore F σ) (ctx : MessageContext)
    (content : Text) (now : Instant) (order : IterOrder UInt64 Instant) :
    (self.withRecord.decideMessage nfkc ctx content now order).1 =
      (self.decideMessage nfkc ctx content now order).1 := by
  obtain ⟨mode, metrics, heq⟩ := self.decideMessage_eq_outcome nfkc ctx content now order
  obtain ⟨mode', metrics', heq'⟩ :=
    self.withRecord.decideMessage_eq_outcome nfkc ctx content now order
  have hproposal : self.withRecord.proposalFor nfkc content = self.proposalFor nfkc content := rfl
  have hcool : (((self.withRecord.asked nfkc ctx content now order).afterTake now).cooldownAllows
      ctx now).1 = (((self.asked nfkc ctx content now order).afterTake now).cooldownAllows
        ctx now).1 := by
    rw [Bool.eq_iff_iff, cooldownAllows_eq_true_iff, cooldownAllows_eq_true_iff]
    constructor
    · intro h
      exact ⟨h.user, h.channel, h.guild, h.globally⟩
    · intro h
      exact ⟨h.user, h.channel, h.guild, h.globally⟩
  rw [heq, heq']
  unfold outcome settle
  rw [hproposal, hcool]
  simp only [apply_ite Prod.fst]
  rfl

/-- A decision defers without being told so exactly where the analyzer fails. -/
theorem deferred_iff (nfkc : Text → Text) (self : TrustedCore F σ) (ctx : MessageContext)
    (content : Text) (now : Instant) (order : IterOrder UInt64 Instant) :
    ((self.decideMessage nfkc ctx content now order).1.proposal = .defer ∧
        .ok .defer ∉ self.answers nfkc ctx content now order) ↔
      (self.answerFor nfkc ctx content now order).any Answer.isError = true := by
  rw [answers_eq]
  cases hscreen : self.screened ctx now with
  | false =>
    obtain ⟨mode, metrics, heq⟩ := @decideMessage_of_not_screened _ _ _ nfkc _ _ content _ order hscreen
    rw [heq, answerFor_of_not_screened hscreen]
    simp
  | true =>
    cases hdup : (self.duplicateGuard.isDuplicateAndMark ctx.messageId now order).1 with
    | true =>
      obtain ⟨mode, metrics, heq⟩ := @decideMessage_of_screened _ _ _ nfkc _ _ content _ order hscreen
      rw [heq, if_pos hdup, answerFor_of_duplicate hdup]
      simp
    | false =>
      have hadm : self.Admitted ctx now := (admitted_iff self ctx now order).2 ⟨hscreen, hdup⟩
      rw [hadm.proposal_eq, answerFor_of_fresh hscreen hdup]
      unfold proposalFor
      by_cases hhard : classifySuspiciousInput nfkc content self.suspiciousCfg = .hard
      · simp [hhard]
      · rw [if_neg hhard, if_neg hhard]
        cases (self.analyzer (request content (self.detector content)) self.analyzerState).1 with
        | ok p => simp [Answer.isError, eq_comm]
        | error err => simp [Answer.isError]

end Record

/-! ### The log of a run -/

/-- A decision of a run, with the answers that were had for it. -/
structure LogEntry where
  decision : ActionDecision
  answers : List Answer

/-- The decision defers, and the analyzer did not say so. -/
def LogEntry.deferred (e : LogEntry) : Bool :=
  decide (e.decision.proposal = .defer ∧ .ok .defer ∉ e.answers)

/-- What an operation adds to the log, in the state before it. -/
def logged [F64 F] (nfkc : Text → Text) (self : TrustedCore F σ) : Op → Option LogEntry
  | .decideMessage ctx content now order =>
      some ⟨(self.decideMessage nfkc ctx content now order).1,
        self.answers nfkc ctx content now order⟩
  | _ => none

/-- The log of a run. -/
abbrev decisionLog [F64 F] (nfkc : Text → Text) (self : TrustedCore F σ) (ops : List Op) :
    List LogEntry :=
  Runs.trace (step nfkc) (logged nfkc) self ops

/-- The answers that were had in a run. -/
def allAnswers (log : List LogEntry) : List Answer := log.flatMap LogEntry.answers

/-- The decisions with this reason. -/
def reasonCount (log : List LogEntry) (reason : SuppressReason) : ℕ :=
  log.countP fun e => e.decision.suppressReason == some reason

/-- The positions at which a mode differs from the one before; `prev` is before the first. -/
def modeChanges (prev : RuntimeMode) : List RuntimeMode → ℕ
  | [] => 0
  | mode :: modes => (if prev ≠ mode then 1 else 0) + modeChanges mode modes

/-- The status of an operation that records a refused request. -/
def Op.refusal? : Op → Option ℕ
  | .recordHttpStatus status _ =>
      if status = 401 ∨ status = 403 ∨ status = 429 then some status else none
  | _ => none

theorem modeChanges_concat (prev : RuntimeMode) (modes : List RuntimeMode) (mode : RuntimeMode) :
    modeChanges prev (modes ++ [mode]) =
      modeChanges prev modes + if modes.getLastD prev ≠ mode then 1 else 0 := by
  induction modes generalizing prev with
  | nil => simp [modeChanges]
  | cons m modes ih =>
    rw [List.cons_append, modeChanges, ih, modeChanges, Nat.add_assoc]
    cases modes <;> rfl

theorem countP_toList {α : Type} (p : α → Bool) (a : Option α) :
    a.toList.countP p = if a.any p then 1 else 0 := by
  cases a with
  | none => rfl
  | some a => exact List.countP_singleton

/-- The mode is that of the last decision, and every counter shows its count over the log so far. -/
structure Booked (log : List LogEntry) (mode : RuntimeMode) (m : RuntimeMetrics) : Prop where
  mode : mode = (log.map (·.decision.mode)).getLastD .normal
  dropped : Shows m.messagesDroppedTotal (log.countP (·.decision.suppressReason.isSome))
  duplicate : Shows m.duplicateSuppressedTotal (reasonCount log .duplicate)
  cooldown : Shows m.cooldownHitsTotal (reasonCount log .cooldown)
  transitions : Shows m.modeTransitionsTotal (modeChanges .normal (log.map (·.decision.mode)))
  calls : Shows m.analyzerCallsTotal (allAnswers log).length
  traps : Shows m.analyzerTrapsTotal ((allAnswers log).countP Answer.isTrap)
  timeouts : Shows m.analyzerTimeoutTotal ((allAnswers log).countP Answer.isTimeout)

/-- A decision keeps the books. -/
theorem Booked.decide [F64 F] {log : List LogEntry} {core : TrustedCore F σ}
    (h : Booked log core.mode.mode core.metrics) (nfkc : Text → Text) (ctx : MessageContext)
    (content : Text) (now : Instant) (order : IterOrder UInt64 Instant) :
    Booked (log ++ [⟨(core.decideMessage nfkc ctx content now order).1,
        core.answers nfkc ctx content now order⟩])
      (core.decideMessage nfkc ctx content now order).2.mode.mode
      (core.decideMessage nfkc ctx content now order).2.metrics := by
  obtain ⟨hmetrics, hmode, hdecision⟩ := core.decideMessage_books nfkc ctx content now order
  have hanswers := core.answers_eq nfkc ctx content now order
  generalize core.decideMessage nfkc ctx content now order = result at *
  generalize core.answers nfkc ctx content now order = answers at *
  generalize core.answerFor nfkc ctx content now order = answer at *
  have hall : allAnswers (log ++ [⟨result.1, answers⟩]) = allAnswers log ++ answer.toList := by
    simp [allAnswers, hanswers]
  constructor
  · rw [hmode, ← hdecision]
    simp
  · rw [hmetrics, List.countP_append, List.countP_singleton]
    exact h.dropped.bump _
  · rw [hmetrics]
    unfold reasonCount
    rw [List.countP_append, List.countP_singleton]
    exact h.duplicate.bump _
  · rw [hmetrics]
    unfold reasonCount
    rw [List.countP_append, List.countP_singleton]
    exact h.cooldown.bump _
  · rw [hmetrics, List.map_append, List.map_singleton, modeChanges_concat, ← h.mode, hdecision]
    have hbump := h.transitions.bump (Decidable.decide (core.mode.mode ≠ core.effectiveMode now))
    simp only [decide_eq_true_eq] at hbump
    exact hbump
  · have hbump := h.calls.bump answer.isSome
    rw [hmetrics, hall, List.length_append]
    cases answer <;> exact hbump
  · rw [hmetrics, hall, List.countP_append, countP_toList]
    exact h.traps.bump _
  · rw [hmetrics, hall, List.countP_append, countP_toList]
    exact h.timeouts.bump _

/-- A recorded status counts as prevented if it is a refusal. -/
theorem recordHttpStatus_metrics (self : TrustedCore F σ) (status : ℕ) (now : Instant) :
    (self.recordHttpStatus status now).metrics =
      { self.metrics with
        invalidRequestPreventedTotal := bump (HttpCircuitBreaker.isFailure status)
          self.metrics.invalidRequestPreventedTotal } := by
  unfold recordHttpStatus
  cases HttpCircuitBreaker.isFailure status <;> rfl

theorem Booked.step [F64 F] {log : List LogEntry} {core : TrustedCore F σ}
    (h : Booked log core.mode.mode core.metrics) (nfkc : Text → Text) (op : Op) :
    Booked (log ++ (core.logged nfkc op).toList) (core.step nfkc op).mode.mode
      (core.step nfkc op).metrics := by
  cases op with
  | decideMessage ctx content now order => exact h.decide nfkc ctx content now order
  | recordHttpStatus status now =>
    have hmetrics : (core.step nfkc (.recordHttpStatus status now)).metrics = _ :=
      core.recordHttpStatus_metrics status now
    show Booked (log ++ []) _ _
    rw [hmetrics, List.append_nil]
    exact ⟨h.mode, h.dropped, h.duplicate, h.cooldown, h.transitions, h.calls, h.traps, h.timeouts⟩
  | _ =>
    show Booked (log ++ []) _ _
    rw [List.append_nil]
    exact ⟨h.mode, h.dropped, h.duplicate, h.cooldown, h.transitions, h.calls, h.traps, h.timeouts⟩

theorem isFailure_iff (status : ℕ) :
    HttpCircuitBreaker.isFailure status = true ↔ status = 401 ∨ status = 403 ∨ status = 429 := by
  unfold HttpCircuitBreaker.isFailure
  simp [or_assoc]

/-- The counter of refused requests shows the number of refusals. -/
theorem shows_refusals_step [F64 F] {refusals : List ℕ} {core : TrustedCore F σ}
    (h : Shows core.metrics.invalidRequestPreventedTotal refusals.length) (nfkc : Text → Text)
    (op : Op) : Shows (core.step nfkc op).metrics.invalidRequestPreventedTotal
      (refusals ++ op.refusal?.toList).length := by
  rw [List.length_append]
  cases op with
  | decideMessage ctx content now order =>
    have hmetrics : (core.step nfkc (.decideMessage ctx content now order)).metrics = _ :=
      (core.decideMessage_books nfkc ctx content now order).1
    rw [hmetrics]
    exact h
  | recordHttpStatus status now =>
    have hmetrics : (core.step nfkc (.recordHttpStatus status now)).metrics = _ :=
      core.recordHttpStatus_metrics status now
    have hlength : (Op.refusal? (.recordHttpStatus status now)).toList.length =
        if HttpCircuitBreaker.isFailure status then 1 else 0 := by
      simp only [Op.refusal?]
      by_cases hfail : HttpCircuitBreaker.isFailure status = true
      · rw [if_pos hfail, if_pos ((isFailure_iff status).1 hfail)]
        rfl
      · rw [if_neg hfail, if_neg fun h => hfail ((isFailure_iff status).2 h)]
        rfl
    rw [hmetrics, hlength]
    exact h.bump _
  | _ => exact h

/-! ### The fold -/

/-- Metrics that are counts over a log of decisions and over the operations of its run. -/
structure CountsOf (m : RuntimeMetrics) (log : List LogEntry) (ops : List Op) : Prop where
  dropped : m.messagesDroppedTotal.toNat = log.countP (·.decision.suppressReason.isSome)
  duplicate : m.duplicateSuppressedTotal.toNat = reasonCount log .duplicate
  cooldown : m.cooldownHitsTotal.toNat = reasonCount log .cooldown
  transitions : m.modeTransitionsTotal.toNat = modeChanges .normal (log.map (·.decision.mode))
  calls : m.analyzerCallsTotal.toNat = (allAnswers log).length
  failed : m.analyzerTrapsTotal.toNat + m.analyzerTimeoutTotal.toNat =
    (allAnswers log).countP Answer.isError
  deferred : (allAnswers log).countP Answer.isError = log.countP LogEntry.deferred
  prevented : m.invalidRequestPreventedTotal.toNat = (ops.filterMap Op.refusal?).length

theorem modeChanges_le (prev : RuntimeMode) (modes : List RuntimeMode) :
    modeChanges prev modes ≤ modes.length := by
  induction modes generalizing prev with
  | nil => exact Nat.le_refl 0
  | cons mode modes ih =>
    have := ih mode
    rw [modeChanges, List.length_cons]
    split_ifs <;> omega

/-- An error is a trap or a timeout. -/
theorem countP_trap_add_timeout (answers : List Answer) :
    answers.countP Answer.isTrap + answers.countP Answer.isTimeout =
      answers.countP Answer.isError := by
  induction answers with
  | nil => rfl
  | cons a answers ih =>
    have hone : ((if a.isTrap then 1 else 0) + if a.isTimeout then 1 else 0) =
        if a.isError then 1 else 0 := by
      cases a with
      | ok p => rfl
      | error err => cases err <;> rfl
    rw [List.countP_cons, List.countP_cons, List.countP_cons, ← ih, ← hone]
    omega

/-- What every entry of a log says of its answers. -/
structure LogEntry.Sound (e : LogEntry) : Prop where
  once : e.answers.length ≤ 1
  errors : e.answers.countP Answer.isError = if e.deferred then 1 else 0

theorem sound_of_mem [F64 F] {nfkc : Text → Text} {self : TrustedCore F σ} {ops : List Op}
    {e : LogEntry} (h : e ∈ self.decisionLog nfkc ops) : e.Sound := by
  obtain ⟨before, op, -, -, hop⟩ := Runs.mem_trace_iff.1 h
  generalize Runs.run (step nfkc) self before = core at hop
  cases op with
  | decideMessage ctx content now order =>
    obtain rfl := Option.some.inj hop
    have hdeferred := core.deferred_iff nfkc ctx content now order
    have hanswers := core.answers_eq nfkc ctx content now order
    constructor
    · show (core.answers nfkc ctx content now order).length ≤ 1
      rw [hanswers]
      cases core.answerFor nfkc ctx content now order <;> simp
    · show (core.answers nfkc ctx content now order).countP Answer.isError = _
      have hiff : LogEntry.deferred ⟨(core.decideMessage nfkc ctx content now order).1,
          core.answers nfkc ctx content now order⟩ =
            (core.answerFor nfkc ctx content now order).any Answer.isError := by
        rw [Bool.eq_iff_iff, ← hdeferred]
        exact decide_eq_true_iff
      rw [hiff, hanswers, countP_toList]
  | _ => cases hop

theorem length_allAnswers_le {log : List LogEntry} (h : ∀ e ∈ log, e.Sound) :
    (allAnswers log).length ≤ log.length := by
  induction log with
  | nil => exact Nat.le_refl 0
  | cons e log ih =>
    have hrest := ih fun e' he' => h e' (List.mem_cons_of_mem e he')
    have hone := (h e List.mem_cons_self).once
    unfold allAnswers at hrest ⊢
    rw [List.flatMap_cons, List.length_append, List.length_cons]
    omega

theorem countP_errors {log : List LogEntry} (h : ∀ e ∈ log, e.Sound) :
    (allAnswers log).countP Answer.isError = log.countP LogEntry.deferred := by
  induction log with
  | nil => rfl
  | cons e log ih =>
    have hrest := ih fun e' he' => h e' (List.mem_cons_of_mem e he')
    unfold allAnswers at hrest ⊢
    rw [List.flatMap_cons, List.countP_append, hrest, (h e List.mem_cons_self).errors,
      List.countP_cons, Nat.add_comm]

/-- **The metrics are a fold of the log.**  After every run of fewer than 2^64 operations of a core that
was just built, with any analyzer and any detector, the counters are the counts over the log of its
decisions, with the answers that the analyzer gave, and over its operations. -/
theorem metrics_fold [F64 F] (nfkc : Text → Text) (analyzer : ProposalAnalyzer σ)
    (analyzerState : σ) (detector : MessageDetector) (botConfig : BotConfig)
    (runtime : RuntimeProtectionConfig F) (start : Instant) (ops : List Op)
    (hlen : ops.length < 2 ^ 64) :
    CountsOf (reached nfkc analyzer analyzerState detector botConfig runtime start ops).metrics
      ((newWithDetector analyzer analyzerState detector botConfig runtime start).decisionLog nfkc ops)
      ops := by
  unfold reached
  generalize hcore : newWithDetector analyzer analyzerState detector botConfig runtime start = core
  have hfresh : core.mode.mode = .normal ∧ core.metrics = {} := by
    rw [← hcore]
    exact ⟨rfl, rfl⟩
  have hbooked : Booked (core.decisionLog nfkc ops) (Runs.run (step nfkc) core ops).mode.mode
      (Runs.run (step nfkc) core ops).metrics := by
    refine Runs.trace_inv (I := fun log (s : TrustedCore F σ) => Booked log s.mode.mode s.metrics)
      (fun log s op h => h.step nfkc op) (h := []) ?_ ops
    rw [hfresh.1, hfresh.2]
    exact ⟨rfl, shows_zero, shows_zero, shows_zero, shows_zero, shows_zero, shows_zero, shows_zero⟩
  have hrefused : Shows (Runs.run (step nfkc) core ops).metrics.invalidRequestPreventedTotal
      (ops.filterMap Op.refusal?).length := by
    rw [← @Runs.trace_of_op _ _ (step nfkc) _ Op.refusal? core ops]
    refine Runs.trace_inv
      (I := fun refusals (s : TrustedCore F σ) =>
        Shows s.metrics.invalidRequestPreventedTotal refusals.length)
      (fun refusals s op h => shows_refusals_step h nfkc op) (h := []) ?_ ops
    rw [hfresh.2]
    exact shows_zero
  have hsound : ∀ e ∈ core.decisionLog nfkc ops, e.Sound := fun e he => sound_of_mem he
  have hentries : (core.decisionLog nfkc ops).length ≤ ops.length := Runs.length_trace_le core ops
  -- no count exceeds the number of operations, so no counter has stopped at its end
  have hcount : ∀ p : LogEntry → Bool, (core.decisionLog nfkc ops).countP p < 2 ^ 64 := fun p =>
    lt_of_le_of_lt (List.countP_le_length.trans hentries) hlen
  have hanswers := (length_allAnswers_le hsound).trans hentries
  have hchanges := modeChanges_le .normal ((core.decisionLog nfkc ops).map (·.decision.mode))
  rw [List.length_map] at hchanges
  constructor
  · exact hbooked.dropped.exact (hcount _)
  · exact hbooked.duplicate.exact (hcount _)
  · exact hbooked.cooldown.exact (hcount _)
  · exact hbooked.transitions.exact (lt_of_le_of_lt (hchanges.trans hentries) hlen)
  · exact hbooked.calls.exact (lt_of_le_of_lt hanswers hlen)
  · rw [hbooked.traps.exact (lt_of_le_of_lt (List.countP_le_length.trans hanswers) hlen),
      hbooked.timeouts.exact (lt_of_le_of_lt (List.countP_le_length.trans hanswers) hlen)]
    exact countP_trap_add_timeout _
  · exact countP_errors hsound
  · refine hrefused.exact (lt_of_le_of_lt ?_ hlen)
    exact List.length_filterMap_le Op.refusal? ops

theorem metrics_fold_twoMessages :
    CountsOf (Runs.run (step id) reactingCore twoMessages).metrics
      (reactingCore.decisionLog id twoMessages) twoMessages :=
  metrics_fold id _ () _ canonicalBotConfig (defaultRuntimeProtectionConfig ℚ) 0 twoMessages
    (by decide)

end TrustedCore

end OoBot
