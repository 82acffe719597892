import OoBot.Security.Transitions

/-!
# Messages that are filtered out

A message that the first guards stop has already moved the mode, the metrics and the queue of analyzer
failures.  The first two are books that no decision reads, and a queue that was trimmed once is the
same as before when it is trimmed again later.  So a run without these messages decides about the others
in the same way (`filtered_inert`).
-/

namespace OoBot

/-- The drops before the duplicate guard. -/
def ActionDecision.filteredOut (d : ActionDecision) : Bool :=
  match d.suppressReason with
  | some .selfTrigger | some .guildDenied | some .channelDenied => true
  | some .modeRestricted => d.mode == .fullDisable
  | _ => false

namespace TrustedCore

variable {F σ : Type} [F64 F]

/-- The operations of a run but for the decisions that end in one of these drops. -/
def withoutFiltered (nfkc : Text → Text) (core : TrustedCore F σ) : List Op → List Op
  | [] => []
  | op :: ops =>
      if (core.decided nfkc op).any fun e => e.decision.filteredOut then
        withoutFiltered nfkc (core.step nfkc op) ops
      else op :: withoutFiltered nfkc (core.step nfkc op) ops

/-! ### Which decisions are filtered out -/

section FilteredOut

variable {nfkc : Text → Text} {self : TrustedCore F σ} {ctx : MessageContext} {content : Text}
  {now : Instant} {order : IterOrder UInt64 Instant}

theorem settle_filteredOut {proposal : ActionProposal} {suspicion : SuspicionLevel}
    {mode : RuntimeMode} {detection : Option DetectionReport} (h : mode ≠ .fullDisable) :
    (self.settle ctx proposal suspicion mode now detection).1.filteredOut = false := by
  unfold settle
  split_ifs
  all_goals simp [dropped, ActionDecision.filteredOut, h]

/-- Filtered out is what the first guards stop. -/
theorem outcome_filteredOut :
    (self.outcome nfkc ctx content now order).1.filteredOut = !self.screened ctx now := by
  unfold outcome
  cases hscreen : self.screened ctx now with
  | false =>
    simp only [Bool.not_false, if_true]
    unfold screenReason dropped ActionDecision.filteredOut
    split_ifs with h₁
    · simp [h₁]
    · rfl
    · rfl
    · rfl
  | true =>
    have hmode : self.effectiveMode now ≠ .fullDisable := ((screened_iff _ _ _).1 hscreen).1
    cases (self.duplicateGuard.isDuplicateAndMark ctx.messageId now order).1 with
    | true => rfl
    | false => exact settle_filteredOut hmode

theorem decideMessage_filteredOut :
    (self.decideMessage nfkc ctx content now order).1.filteredOut = !self.screened ctx now := by
  obtain ⟨mode, metrics, heq⟩ := self.decideMessage_eq_outcome nfkc ctx content now order
  rw [heq]
  exact outcome_filteredOut

end FilteredOut

/-! ### States that agree from now on -/

/-- The two states are the same from `t` on, but for the books. -/
def Agree (t : Instant) (a b : TrustedCore F σ) : Prop :=
  ∃ mode metrics, ∀ now, t ≤ now →
    a.trimSandboxFailures now = (b.trimSandboxFailures now).withBooks mode metrics

section Agree

variable {t t' now : Instant} {a b : TrustedCore F σ} {nfkc : Text → Text} {ctx : MessageContext}
  {content : Text} {order : IterOrder UInt64 Instant}

omit [F64 F] in
theorem trim_trim (self : TrustedCore F σ) {later : Instant} (h : now ≤ later) :
    (self.trimSandboxFailures now).trimSandboxFailures later = self.trimSandboxFailures later := by
  unfold trimSandboxFailures
  simp only [trimFront_trimFront h]

omit [F64 F] in
theorem agree_withBooks (mode : ModeState) (metrics : RuntimeMetrics) :
    Agree t (b.withBooks mode metrics) b :=
  ⟨mode, metrics, fun _ _ => rfl⟩

omit [F64 F] in
theorem Agree.mono (h : Agree t a b) (hle : t ≤ t') : Agree t' a b := by
  obtain ⟨mode, metrics, heq⟩ := h
  exact ⟨mode, metrics, fun now hnow => heq now (hle.trans hnow)⟩

omit [F64 F] in
/-- Trimming one of them changes nothing from then on. -/
theorem Agree.trim (h : Agree t a b) (hle : t ≤ now) (mode : ModeState) (metrics : RuntimeMetrics) :
    Agree now ((a.trimSandboxFailures now).withBooks mode metrics) b := by
  obtain ⟨mode', metrics', heq⟩ := h
  refine ⟨mode, metrics, fun later hlater => ?_⟩
  have hbooks : ((a.trimSandboxFailures now).withBooks mode metrics).trimSandboxFailures later =
      ((a.trimSandboxFailures now).trimSandboxFailures later).withBooks mode metrics := rfl
  rw [hbooks, trim_trim a hlater, heq later (hle.trans hlater)]
  rfl

/-- A decision trims before it looks. -/
theorem outcome_trim (self : TrustedCore F σ) :
    (self.trimSandboxFailures now).outcome nfkc ctx content now order =
      self.outcome nfkc ctx content now order := by
  -- every part of the outcome trims the failures before it reads them
  have htrim := self.trim_trim (le_refl now)
  have hmode : (self.trimSandboxFailures now).effectiveMode now = self.effectiveMode now := by
    unfold effectiveMode
    rw [htrim]
  have hscreened : (self.trimSandboxFailures now).screened ctx now = self.screened ctx now := by
    unfold screened
    rw [hmode]
    rfl
  have hreason : (self.trimSandboxFailures now).screenReason ctx now = self.screenReason ctx now := by
    unfold screenReason
    rw [hmode]
    rfl
  have hmarked : (self.trimSandboxFailures now).marked ctx now order = self.marked ctx now order := by
    unfold marked
    rw [htrim]
    rfl
  have hfailures : (self.trimSandboxFailures now).failuresAfter nfkc content now =
      self.failuresAfter nfkc content now := by
    have hfront := @trimFront_trimFront (fromMillis self.runtime.sandboxFailureWindowMs) now now
      (le_refl now) self.sandboxFailures
    unfold failuresAfter trimSandboxFailures
    simp only [hfront]
  have hasked : (self.trimSandboxFailures now).asked nfkc ctx content now order =
      self.asked nfkc ctx content now order := by
    unfold asked
    rw [hmarked, hfailures]
    rfl
  unfold outcome
  rw [htrim, hmode, hscreened, hreason, hmarked, hasked]
  rfl

/-- States that agree decide alike, and agree again. -/
theorem Agree.decide (h : Agree t a b) (hle : t ≤ now) :
    (a.decideMessage nfkc ctx content now order).1 =
        (b.decideMessage nfkc ctx content now order).1 ∧
      Agree now (a.decideMessage nfkc ctx content now order).2
        (b.decideMessage nfkc ctx content now order).2 := by
  obtain ⟨mode, metrics, heq⟩ := h
  obtain ⟨modeA, metricsA, ha⟩ := a.decideMessage_eq_outcome nfkc ctx content now order
  obtain ⟨modeB, metricsB, hb⟩ := b.decideMessage_eq_outcome nfkc ctx content now order
  have hout : a.outcome nfkc ctx content now order =
      ((b.outcome nfkc ctx content now order).1,
        (b.outcome nfkc ctx content now order).2.withBooks mode metrics) := by
    rw [← outcome_trim a, heq now hle, outcome_withBooks, outcome_trim b]
  rw [ha, hb, hout]
  refine ⟨rfl, ?_⟩
  exact @agree_withBooks _ _ now ((b.outcome nfkc ctx content now order).2.withBooks modeB metricsB)
    modeA metricsA

/-- States that agree show the same. -/
theorem Agree.decided_eq (h : Agree t a b) {op : Op} (hle : t ≤ Runs.clock Op.instant? t op) :
    b.decided nfkc op = a.decided nfkc op := by
  cases op with
  | decideMessage ctx content now order =>
    have hdecision : (a.decideMessage nfkc ctx content now order).1 =
        (b.decideMessage nfkc ctx content now order).1 := (h.decide hle).1
    have hscreened : b.screened ctx now = a.screened ctx now := by
      have hfiltered := congrArg ActionDecision.filteredOut hdecision
      rw [decideMessage_filteredOut, decideMessage_filteredOut, Bool.not_inj_iff] at hfiltered
      exact hfiltered.symm
    unfold decided
    simp only
    rw [hdecision, hscreened]
  | _ => rfl

/-- The other operations keep agreement. -/
theorem Agree.step_other (h : Agree t a b) {op : Op} (hop : a.decided nfkc op = none) :
    Agree t (a.step nfkc op) (b.step nfkc op) := by
  obtain ⟨mode, metrics, heq⟩ := h
  refine ⟨mode, ((b.withBooks mode metrics).step nfkc op).metrics, fun now hnow => ?_⟩
  have hcomm : (a.step nfkc op).trimSandboxFailures now =
      (a.trimSandboxFailures now).step nfkc op := by
    cases op with
    | decideMessage => cases hop
    | _ => rfl
  rw [hcomm, heq now hnow]
  cases op with
  | decideMessage => cases hop
  | _ => rfl

/-- A step that shows a decision which is not filtered out, or none. -/
theorem Agree.step_kept (h : Agree t a b) {op : Op} (hle : t ≤ Runs.clock Op.instant? t op) :
    Agree (Runs.clock Op.instant? t op) (a.step nfkc op) (b.step nfkc op) := by
  cases op with
  | decideMessage ctx content now order => exact (h.decide hle).2
  | _ => exact (h.step_other rfl).mono hle

/-- A step that shows a decision which is filtered out trims the failures, and keeps books. -/
theorem Agree.step_filtered (h : Agree t a b) {op : Op} (hle : t ≤ Runs.clock Op.instant? t op)
    (hop : ((a.decided nfkc op).any fun e => e.decision.filteredOut) = true) :
    Agree (Runs.clock Op.instant? t op) (a.step nfkc op) b := by
  cases op with
  | decideMessage ctx content now order =>
    obtain ⟨mode, metrics, heq⟩ := a.decideMessage_eq_outcome nfkc ctx content now order
    have hfiltered : (a.decideMessage nfkc ctx content now order).1.filteredOut = true := hop
    rw [decideMessage_filteredOut, Bool.not_eq_true'] at hfiltered
    have hout : (a.outcome nfkc ctx content now order).2 = a.trimSandboxFailures now := by
      unfold outcome
      rw [hfiltered]
      rfl
    have hnext : a.step nfkc (.decideMessage ctx content now order) =
        (a.trimSandboxFailures now).withBooks mode metrics := by
      unfold step
      simp only
      rw [heq, hout]
    rw [hnext]
    exact h.trim hle mode metrics
  | _ => cases hop

end Agree

/-! ### Runs without the filtered messages -/

/-- The two runs decide alike and end in states that agree. -/
theorem agree_withoutFiltered (nfkc : Text → Text) {t : Instant} {a b : TrustedCore F σ}
    (h : Agree t a b) {ops : List Op} (hops : Runs.Clocked Op.instant? t ops) :
    decisions nfkc b (withoutFiltered nfkc a ops) =
        (decisions nfkc a ops).filter (fun e => !e.decision.filteredOut) ∧
      ∃ t', Agree t' (Runs.run (step nfkc) a ops)
        (Runs.run (step nfkc) b (withoutFiltered nfkc a ops)) := by
  induction ops generalizing t a b with
  | nil => exact ⟨rfl, t, h⟩
  | cons op ops ih =>
    obtain ⟨hle, hrest⟩ := Runs.clocked_cons.1 hops
    have hsame : b.decided nfkc op = a.decided nfkc op := h.decided_eq hle
    by_cases hfiltered : ((a.decided nfkc op).any fun e => e.decision.filteredOut) = true
    · -- the run without it stays where it is
      have hagree := h.step_filtered hle hfiltered
      obtain ⟨hdecs, hlast⟩ := ih hagree hrest
      have hnone : (a.decided nfkc op).toList.filter (fun e => !e.decision.filteredOut) = [] := by
        cases hdec : a.decided nfkc op with
        | none => rfl
        | some e =>
          rw [hdec] at hfiltered
          simpa using hfiltered
      unfold withoutFiltered
      rw [if_pos hfiltered]
      refine ⟨hdecs.trans ?_, hlast⟩
      rw [decisions_cons, List.filter_append, hnone, List.nil_append]
    · have hagree : Agree (Runs.clock Op.instant? t op) (a.step nfkc op) (b.step nfkc op) :=
        h.step_kept hle
      obtain ⟨hdecs, hlast⟩ := ih hagree hrest
      have hall : (a.decided nfkc op).toList.filter (fun e => !e.decision.filteredOut) =
          (a.decided nfkc op).toList := by
        cases hdec : a.decided nfkc op with
        | none => rfl
        | some e =>
          rw [hdec] at hfiltered
          simpa using hfiltered
      unfold withoutFiltered
      rw [if_neg hfiltered]
      refine ⟨?_, hlast⟩
      rw [decisions_cons, decisions_cons, List.filter_append, hall, hsame, hdecs]

/-- **Filtered-out messages are inert.**  Delete from a run, of any core at the instants of a clock
that does not run backwards, the decisions that ended in a drop before the duplicate guard: the other
decisions are the same, and so are the duplicate guard, the cooldowns, the bucket, the breaker and the
last detection at the end. -/
theorem filtered_inert (nfkc : Text → Text) (core : TrustedCore F σ) (start : Instant) (ops : List Op)
    (hops : Runs.Clocked Op.instant? start ops) :
    decisions nfkc core (withoutFiltered nfkc core ops) =
        (decisions nfkc core ops).filter (fun e => !e.decision.filteredOut) ∧
      (Runs.run (step nfkc) core (withoutFiltered nfkc core ops)).duplicateGuard =
        (Runs.run (step nfkc) core ops).duplicateGuard ∧
      (Runs.run (step nfkc) core (withoutFiltered nfkc core ops)).limits =
        (Runs.run (step nfkc) core ops).limits ∧
      (Runs.run (step nfkc) core (withoutFiltered nfkc core ops)).breaker =
        (Runs.run (step nfkc) core ops).breaker ∧
      (Runs.run (step nfkc) core (withoutFiltered nfkc core ops)).lastDetection =
        (Runs.run (step nfkc) core ops).lastDetection := by
  have hself : Agree start core core := @agree_withBooks _ _ start core core.mode core.metrics
  obtain ⟨hdecs, t, mode, metrics, heq⟩ := agree_withoutFiltered nfkc hself hops
  have hlast := heq t (le_refl t)
  exact ⟨hdecs, (congrArg duplicateGuard hlast).symm, (congrArg limits hlast).symm,
    (congrArg breaker hlast).symm, (congrArg lastDetection hlast).symm⟩

/-- A message of a bot between two others. -/
def withBotMessage : List Op :=
  [.decideMessage firstMessage "oo".toList 0 (.listed _ _),
    .decideMessage { firstMessage with messageId := 5, authorIsBot := true } "oo".toList 7
      (.listed _ _),
    .decideMessage { firstMessage with messageId := 9 } "oo".toList 1000000000 (.listed _ _)]

theorem filtered_inert_withBotMessage :
    decisions id reactingCore (withoutFiltered id reactingCore withBotMessage) =
        (decisions id reactingCore withBotMessage).filter (fun e => !e.decision.filteredOut) ∧
      (Runs.run (step id) reactingCore (withoutFiltered id reactingCore withBotMessage)).duplicateGuard =
        (Runs.run (step id) reactingCore withBotMessage).duplicateGuard ∧
      (Runs.run (step id) reactingCore (withoutFiltered id reactingCore withBotMessage)).limits =
        (Runs.run (step id) reactingCore withBotMessage).limits ∧
      (Runs.run (step id) reactingCore (withoutFiltered id reactingCore withBotMessage)).breaker =
        (Runs.run (step id) reactingCore withBotMessage).breaker ∧
      (Runs.run (step id) reactingCore (withoutFiltered id reactingCore withBotMessage)).lastDetection =
        (Runs.run (step id) reactingCore withBotMessage).lastDetection :=
  filtered_inert id reactingCore 0 withBotMessage
    (by simp [Runs.Clocked, withBotMessage, Op.instant?])

end TrustedCore

end OoBot
