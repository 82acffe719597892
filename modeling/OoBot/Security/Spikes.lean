import OoBot.Security.Degradation
import OoBot.Security.Metrics

/-!
# Analyzer failures and the audit mode

The core keeps the instants at which the analyzer failed, and drops those that lie further back than
the window.  After a run at non-decreasing instants it knows of the failures what the history says
(`RemembersFailures`), so that a spike of failures can be read off the history
(`RemembersFailures.spiking_iff`).

`audit_only_caused_iff` says when the audit mode has a cause: the threshold is compared as it is
configured, and a threshold of zero asks for no failure at all.
-/

namespace OoBot

namespace TrustedCore

variable {F σ : Type}

/-! ### The failures of a run -/

section Failures

variable [F64 F] {nfkc : Text → Text} {self : TrustedCore F σ} {ctx : MessageContext}
  {content : Text} {now : Instant} {order : IterOrder UInt64 Instant}

/-- The instant of an operation in which the analyzer is asked and fails. -/
def failedAt (nfkc : Text → Text) (self : TrustedCore F σ) : Op → Option Instant
  | .decideMessage ctx content now order =>
      if (self.answers nfkc ctx content now order).any Answer.isError then some now else none
  | _ => none

/-- The instants at which the analyzer failed in a run. -/
abbrev analyzerFailures (nfkc : Text → Text) (self : TrustedCore F σ) (ops : List Op) :
    List Instant :=
  Runs.trace (step nfkc) (failedAt nfkc) self ops

/-- The failures that a decision keeps. -/
theorem outcome_failures :
    (self.outcome nfkc ctx content now order).2.sandboxFailures =
      if self.screened ctx now &&
          !(self.duplicateGuard.isDuplicateAndMark ctx.messageId now order).1 then
        self.failuresAfter nfkc content now
      else trimFront (fromMillis self.runtime.sandboxFailureWindowMs) now self.sandboxFailures :=
  outcome_frame (fun core => core.sandboxFailures) (fun _ _ _ _ _ => by rw [settle_frame]) rfl

omit [F64 F] in
/-- An admitted message leaves the failures within the window, and its own. -/
theorem failuresAfter_eq : self.failuresAfter nfkc content now =
    trimFront (fromMillis self.runtime.sandboxFailureWindowMs) now (self.sandboxFailures ++
      if classifySuspiciousInput nfkc content self.suspiciousCfg = .hard then []
      else if Answer.isError (self.analyzer (request content (self.detector content))
        self.analyzerState).1 then [now] else []) := by
  unfold failuresAfter
  simp only
  by_cases hhard : classifySuspiciousInput nfkc content self.suspiciousCfg = .hard
  · rw [if_pos hhard, if_pos hhard, List.append_nil]
  · rw [if_neg hhard, if_neg hhard]
    cases (self.analyzer (request content (self.detector content)) self.analyzerState).1 with
    | ok p => exact congrArg _ (List.append_nil _).symm
    | error err => exact trimFront_append_trimFront (le_refl now) _ _

/-- **A decision remembers its failure**, if it has one, and forgets those outside the window. -/
theorem decideMessage_failures (nfkc : Text → Text) (self : TrustedCore F σ) (ctx : MessageContext)
    (content : Text) (now : Instant) (order : IterOrder UInt64 Instant) :
    (self.decideMessage nfkc ctx content now order).2.sandboxFailures =
      trimFront (fromMillis self.runtime.sandboxFailureWindowMs) now (self.sandboxFailures ++
        (self.failedAt nfkc (.decideMessage ctx content now order)).toList) := by
  obtain ⟨mode, metrics, heq⟩ := self.decideMessage_eq_outcome nfkc ctx content now order
  have hsame : (self.decideMessage nfkc ctx content now order).2.sandboxFailures =
      (self.outcome nfkc ctx content now order).2.sandboxFailures := by
    rw [heq]
    rfl
  rw [hsame, outcome_failures, failedAt, answers_eq]
  cases hscreen : self.screened ctx now with
  | false => simp [answerFor_of_not_screened hscreen]
  | true =>
    cases hdup : (self.duplicateGuard.isDuplicateAndMark ctx.messageId now order).1 with
    | true => simp [answerFor_of_duplicate hdup]
    | false =>
      rw [answerFor_of_fresh hscreen hdup, failuresAfter_eq]
      simp only [Bool.not_false, Bool.and_self, if_true]
      split_ifs <;> simp_all

end Failures

/-! ### What the core knows of the history -/

/-- At `clock` and after the failures `failures`, the core knows those that still lie within the
window, and the parts of its configuration that the failures are judged by are the first ones. -/
structure RemembersFailures (runtime : RuntimeProtectionConfig F) (clock : Instant)
    (failures : List Instant) (core : TrustedCore F σ) : Prop where
  window : core.runtime.sandboxFailureWindowMs = runtime.sandboxFailureWindowMs
  threshold : core.runtime.sandboxFailureThreshold = runtime.sandboxFailureThreshold
  sorted : failures.Pairwise (· ≤ ·)
  past : ∀ t ∈ failures, t ≤ clock
  kept : ∀ later, clock ≤ later →
    trimFront (fromMillis runtime.sandboxFailureWindowMs) later core.sandboxFailures =
      trimFront (fromMillis runtime.sandboxFailureWindowMs) later failures

section Remembers

variable [F64 F] {nfkc : Text → Text} {runtime : RuntimeProtectionConfig F} {clock : Instant}
  {failures : List Instant} {core : TrustedCore F σ}

omit [F64 F] in
/-- A later clock changes nothing, and neither does a state with the same failures. -/
theorem RemembersFailures.mono (h : RemembersFailures runtime clock failures core)
    {clock' : Instant} (hle : clock ≤ clock') {core' : TrustedCore F σ}
    (hwindow : core'.runtime.sandboxFailureWindowMs = core.runtime.sandboxFailureWindowMs)
    (hthreshold : core'.runtime.sandboxFailureThreshold = core.runtime.sandboxFailureThreshold)
    (hfailures : core'.sandboxFailures = core.sandboxFailures) :
    RemembersFailures runtime clock' failures core' where
  window := hwindow.trans h.window
  threshold := hthreshold.trans h.threshold
  sorted := h.sorted
  past := fun t ht => (h.past t ht).trans hle
  kept := fun later hlater => by rw [hfailures, h.kept later (hle.trans hlater)]

/-- A decision adds its own failure to the history. -/
theorem RemembersFailures.decide (h : RemembersFailures runtime clock failures core)
    (nfkc : Text → Text) {ctx : MessageContext} {content : Text} {now : Instant}
    {order : IterOrder UInt64 Instant} (hle : clock ≤ now) :
    RemembersFailures runtime now
      (failures ++ (core.failedAt nfkc (.decideMessage ctx content now order)).toList)
      (core.decideMessage nfkc ctx content now order).2 := by
  have hown : ∀ t ∈ (core.failedAt nfkc (.decideMessage ctx content now order)).toList, t = now := by
    intro t ht
    unfold failedAt at ht
    simp only [Option.mem_toList, Option.ite_none_right_eq_some, Option.some.injEq] at ht
    exact ht.2.symm
  refine ⟨?_, ?_, List.pairwise_append.2 ⟨h.sorted, ?_, ?_⟩, ?_, ?_⟩
  · rw [decideMessage_runtime, h.window]
  · rw [decideMessage_runtime, h.threshold]
  · cases core.failedAt nfkc (.decideMessage ctx content now order) <;> simp
  · intro s hs t ht
    rw [hown t ht]
    exact (h.past s hs).trans hle
  · intro t ht
    rcases List.mem_append.1 ht with ht | ht
    · exact (h.past t ht).trans hle
    · exact le_of_eq (hown t ht)
  · intro later hlater
    rw [decideMessage_failures, h.window, trimFront_trimFront hlater,
      ← trimFront_append_trimFront (le_refl later), h.kept later (hle.trans hlater),
      trimFront_append_trimFront (le_refl later)]

/-- Every operation keeps what the core knows of the failures. -/
theorem RemembersFailures.step (h : RemembersFailures runtime clock failures core)
    (nfkc : Text → Text) (op : Op) (hle : clock ≤ Runs.clock Op.instant? clock op) :
    RemembersFailures runtime (Runs.clock Op.instant? clock op)
      (failures ++ (core.failedAt nfkc op).toList) (core.step nfkc op) := by
  cases op with
  | decideMessage ctx content now order =>
    rw [Op.clock_eq rfl] at hle ⊢
    exact h.decide nfkc hle
  | _ =>
    rw [show core.failedAt nfkc _ = none from rfl, Option.toList_none, List.append_nil]
    exact h.mono hle rfl rfl rfl

/-- After a run at non-decreasing instants. -/
theorem remembersFailures_reached (nfkc : Text → Text) (analyzer : ProposalAnalyzer σ)
    (analyzerState : σ) (detector : MessageDetector) (botConfig : BotConfig)
    (runtime : RuntimeProtectionConfig F) (start : Instant) {ops : List Op}
    (hops : Runs.Clocked Op.instant? start ops) :
    RemembersFailures runtime (ops.foldl (Runs.clock Op.instant?) start)
      (analyzerFailures nfkc
        (newWithDetector analyzer analyzerState detector botConfig runtime start) ops)
      (reached nfkc analyzer analyzerState detector botConfig runtime start ops) := by
  have hinit : RemembersFailures runtime start []
      (newWithDetector analyzer analyzerState detector botConfig runtime start) :=
    ⟨rfl, rfl, List.Pairwise.nil, by simp, fun _ _ => rfl⟩
  exact Runs.timed_inv (I := RemembersFailures runtime)
    (fun _ _ _ op hle hr => hr.step nfkc op hle) hinit hops

omit [F64 F] in
/-- The spike, read off the history. -/
theorem RemembersFailures.spiking_iff (h : RemembersFailures runtime clock failures core)
    {now : Instant} (hle : clock ≤ now) : core.Spiking now ↔
      runtime.sandboxFailureThreshold ≤ (failures.filter fun t =>
        durationSince now t ≤ fromMillis runtime.sandboxFailureWindowMs).length := by
  unfold Spiking
  rw [h.window, h.threshold, h.kept now hle, trimFront_eq_filter h.sorted]

end Remembers

/-- No operation of the run sets a mode override. -/
def OverrideFree (ops : List Op) : Prop := ∀ mode, .setModeOverride (some mode) ∉ ops

theorem modeOverride_run [F64 F] (nfkc : Text → Text) {core : TrustedCore F σ}
    (hcore : core.runtime.modeOverride = none) {ops : List Op} (h : OverrideFree ops) :
    (Runs.run (step nfkc) core ops).runtime.modeOverride = none := by
  induction ops generalizing core with
  | nil => exact hcore
  | cons op ops ih =>
    refine ih ?_ fun mode hmode => h mode (List.mem_cons_of_mem op hmode)
    cases op with
    | decideMessage ctx content now order =>
      show (core.decideMessage nfkc ctx content now order).2.runtime.modeOverride = none
      rw [decideMessage_runtime, hcore]
    | setModeOverride mode =>
      cases mode with
      | none => rfl
      | some mode => exact absurd List.mem_cons_self (h mode)
    | _ => exact hcore

/-! ### The cause of the audit mode -/

/-- What the mode of a decision at `now` must have to do with the failures before it. -/
structure AuditOnlyCaused (runtime : RuntimeProtectionConfig F) (core : TrustedCore F σ)
    (failures : List Instant) (now : Instant) (mode : RuntimeMode) : Prop where
  cause : mode = .auditOnly →
    ∃ t ∈ failures, t ≤ now ∧ durationSince now t ≤ fromMillis runtime.sandboxFailureWindowMs
  failureless : failures = [] → mode ≠ .auditOnly
  /-- All triggers have lapsed: at least one failure within the window is needed for a spike. -/
  recovers : core.runtime.emergencyKillSwitch = false → core.sessionBudget.isLow = false →
    core.breaker.isOpen now = false →
    (failures.filter fun t =>
      durationSince now t ≤ fromMillis runtime.sandboxFailureWindowMs).length <
        max runtime.sandboxFailureThreshold 1 → mode = .normal

/-- A trigger that comes before the spike of failures. -/
def Overruled (core : TrustedCore F σ) (now : Instant) : Prop :=
  core.runtime.emergencyKillSwitch = true ∨ core.sessionBudget.isLow = true ∨
    core.breaker.isOpen now = true

/-- Without an override, and with no trigger that comes first, the failures decide. -/
theorem effectiveMode_of_not_overruled {core : TrustedCore F σ}
    (hoverride : core.runtime.modeOverride = none) {now : Instant} (h : ¬ core.Overruled now) :
    core.effectiveMode now = if core.Spiking now then .auditOnly else .normal := by
  rw [effectiveMode_eq core hoverride, if_neg fun hkill => h (Or.inl hkill),
    if_neg fun hlow => h (Or.inr (Or.inl hlow)), if_neg fun hopen => h (Or.inr (Or.inr hopen))]

theorem effectiveMode_of_overruled {core : TrustedCore F σ}
    (hoverride : core.runtime.modeOverride = none) {now : Instant} (h : core.Overruled now) :
    core.effectiveMode now ≠ .auditOnly := by
  rw [effectiveMode_eq core hoverride]
  unfold Overruled at h
  split_ifs with hkill hlow hopen
  · decide
  · decide
  · decide
  · exact absurd h (by simp [hkill, hlow, hopen])
  · decide

section Caused

variable {runtime : RuntimeProtectionConfig F} {core : TrustedCore F σ} {failures : List Instant}
  {now : Instant}

/-- Whether the audit mode has a cause, for a core that knows of the failures what the history says. -/
theorem auditOnlyCaused_iff (hoverride : core.runtime.modeOverride = none)
    (hpast : ∀ t ∈ failures, t ≤ now)
    (hspike : core.Spiking now ↔ runtime.sandboxFailureThreshold ≤ (failures.filter fun t =>
      durationSince now t ≤ fromMillis runtime.sandboxFailureWindowMs).length) :
    AuditOnlyCaused runtime core failures now (core.effectiveMode now) ↔
      1 ≤ runtime.sandboxFailureThreshold ∨ core.Overruled now ∨
        ∃ t ∈ failures, durationSince now t ≤ fromMillis runtime.sandboxFailureWindowMs := by
  by_cases hover : core.Overruled now
  · refine iff_of_true ⟨fun h => absurd h (effectiveMode_of_overruled hoverride hover),
      fun _ => effectiveMode_of_overruled hoverride hover, ?_⟩ (Or.inr (Or.inl hover))
    intro hkill hlow hopen _
    exact absurd hover (by simp [Overruled, hkill, hlow, hopen])
  · rw [effectiveMode_of_not_overruled hoverride hover]
    by_cases hrecent : ∃ t ∈ failures,
        durationSince now t ≤ fromMillis runtime.sandboxFailureWindowMs
    · obtain ⟨t, ht, hwindow⟩ := hrecent
      have hpos : 1 ≤ (failures.filter fun t =>
          durationSince now t ≤ fromMillis runtime.sandboxFailureWindowMs).length :=
        List.length_pos_of_mem (List.mem_filter.2 ⟨ht, decide_eq_true hwindow⟩)
      refine iff_of_true ⟨fun _ => ⟨t, ht, hpast t ht, hwindow⟩, ?_, ?_⟩
        (Or.inr (Or.inr ⟨t, ht, hwindow⟩))
      · rintro rfl
        cases ht
      · intro _ _ _ hfew
        exact if_neg fun h => absurd (hspike.1 h) (by omega)
    · have hzero : (failures.filter fun t =>
          durationSince now t ≤ fromMillis runtime.sandboxFailureWindowMs).length = 0 := by
        rw [List.length_eq_zero_iff, List.filter_eq_nil_iff]
        intro t ht hwindow
        exact hrecent ⟨t, ht, of_decide_eq_true hwindow⟩
      rw [hzero] at hspike
      rw [or_iff_left (not_or.2 ⟨hover, hrecent⟩)]
      constructor
      · -- a threshold of zero is reached by no failures at all
        intro h
        by_contra hthreshold
        obtain ⟨t, ht, -, hwindow⟩ := h.cause (if_pos (hspike.2 (by omega)))
        exact hrecent ⟨t, ht, hwindow⟩
      · intro hthreshold
        have hnot : ¬ core.Spiking now := fun h => absurd (hspike.1 h) (by omega)
        rw [if_neg hnot]
        exact ⟨nofun, fun _ => nofun, fun _ _ _ _ => rfl⟩

end Caused

/-- **When the audit mode has a cause.**  In every run without a mode override, at non-decreasing
instants, and for each of its decisions: the audit mode has a failure within the window for a cause,
and the mode is normal again once the triggers have lapsed, exactly when the configured threshold is
at least one, or a trigger that comes first or a recent failure hides that it is not. -/
theorem audit_only_caused_iff [F64 F] (nfkc : Text → Text) (analyzer : ProposalAnalyzer σ)
    (analyzerState : σ) (detector : MessageDetector) (cfg : StartupConfig F) (start : Instant)
    (ops : List Op) (ctx : MessageContext) (content : Text) (now : Instant)
    (order : IterOrder UInt64 Instant)
    (hops : Runs.Clocked Op.instant? start (ops ++ [.decideMessage ctx content now order]))
    (hoverride : cfg.runtime.modeOverride = none) (hfree : OverrideFree ops)
    (core : TrustedCore F σ)
    (hcore : core = reached nfkc analyzer analyzerState detector
      (cfg.bot.asBotConfig cfg.detector) cfg.runtime start ops)
    (failures : List Instant)
    (hfailures : failures = analyzerFailures nfkc (newWithDetector analyzer analyzerState detector
      (cfg.bot.asBotConfig cfg.detector) cfg.runtime start) ops) :
    AuditOnlyCaused cfg.runtime core failures now
        (core.decideMessage nfkc ctx content now order).1.mode ↔
      1 ≤ cfg.runtime.sandboxFailureThreshold ∨ core.Overruled now ∨
        ∃ t ∈ failures, durationSince now t ≤ fromMillis cfg.runtime.sandboxFailureWindowMs := by
  obtain ⟨hclocked, hle⟩ := Runs.clocked_concat hops
  rw [Op.clock_eq rfl] at hle
  have hremembers := remembersFailures_reached nfkc analyzer analyzerState detector
    (cfg.bot.asBotConfig cfg.detector) cfg.runtime start hclocked
  rw [← hcore, ← hfailures] at hremembers
  have hnone : core.runtime.modeOverride = none := by
    rw [hcore]
    exact modeOverride_run nfkc hoverride hfree
  have hspike := hremembers.spiking_iff hle
  have hpast : ∀ t ∈ failures, t ≤ now := fun t ht => (hremembers.past t ht).trans hle
  rw [(decideMessage_books nfkc core ctx content now order).2.2]
  exact auditOnlyCaused_iff hnone hpast hspike

/-- A core whose analyzer always fails, with the canonical configuration. -/
def failingCore (ops : List Op) : TrustedCore ℚ Unit :=
  reached id (fun _ s => (.error .timeout, s)) () canonicalDetector.detect
    (canonicalBotPolicyConfig.asBotConfig canonicalDetectorConfig)
    (defaultRuntimeProtectionConfig ℚ) 0 ops

/-- A decision on the empty message. -/
def emptyMessage (now : Instant) : Op := .decideMessage firstMessage [] now (.listed _ _)

theorem audit_only_caused_failing :
    AuditOnlyCaused (defaultRuntimeProtectionConfig ℚ) (failingCore [emptyMessage 3])
        (analyzerFailures id (failingCore []) [emptyMessage 3]) 5
        ((failingCore [emptyMessage 3]).decideMessage id firstMessage [] 5 (.listed _ _)).1.mode ↔
      1 ≤ (defaultRuntimeProtectionConfig ℚ).sandboxFailureThreshold ∨
        (failingCore [emptyMessage 3]).Overruled 5 ∨
        ∃ t ∈ analyzerFailures id (failingCore []) [emptyMessage 3], durationSince 5 t ≤
          fromMillis (defaultRuntimeProtectionConfig ℚ).sandboxFailureWindowMs :=
  audit_only_caused_iff id (fun _ s => (.error .timeout, s)) () canonicalDetector.detect
    (canonicalStartupConfig ℚ) 0 [emptyMessage 3] firstMessage [] 5 (.listed _ _)
    (by simp [Runs.Clocked, Op.instant?, emptyMessage]) rfl (by simp [OverrideFree, emptyMessage])
    _ rfl _ rfl

/-- The canonical configuration with a threshold of zero. -/
def zeroThresholdConfig : StartupConfig ℚ :=
  { canonicalStartupConfig ℚ with
    runtime := { defaultRuntimeProtectionConfig ℚ with sandboxFailureThreshold := 0 } }

/-- An accepted configuration under which the first decision is in the audit mode, although no
analyzer has ever been asked, let alone failed. -/
theorem audit_only_without_failure :
    validateConfig zeroThresholdConfig = .ok () ∧ OverrideFree [] ∧
      zeroThresholdConfig.runtime.modeOverride = none ∧
      analyzerFailures id (newWithDetector (fun _ s => (.ok .reactOnce, s)) ()
        canonicalDetector.detect (zeroThresholdConfig.bot.asBotConfig zeroThresholdConfig.detector)
        zeroThresholdConfig.runtime 0) [] = [] ∧
      ((reached id (fun _ s => (.ok .reactOnce, s)) () canonicalDetector.detect
        (zeroThresholdConfig.bot.asBotConfig zeroThresholdConfig.detector)
        zeroThresholdConfig.runtime 0 []).decideMessage id firstMessage [] 5
          (.listed _ _)).1.mode = .auditOnly := by
  refine ⟨by decide, by simp [OverrideFree], rfl, rfl, ?_⟩
  rw [(decideMessage_books id _ firstMessage [] 5 (.listed _ _)).2.2]
  rfl

end TrustedCore

end OoBot
