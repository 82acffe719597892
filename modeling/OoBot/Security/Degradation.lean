import OoBot.Security.Fresh
import OoBot.Security.Mediation

/-!
# Faults and the mode

The mode is the first of a list of triggers that holds, and the list is not in the order of what the
modes permit: a low session budget comes before a spike of analyzer failures, and the mode it asks for
permits the reaction, which the mode of the spike does not.  The breaker is asked once more before an
action leaves the core; the spike is not.

`degradation_iff` says when one more fault permits no more than before.
-/

namespace OoBot

/-- The action `a'` is not more permissive than `a`. -/
def NoMorePermissive (a a' : BotAction) : Prop :=
  (a = .noop → a' = .noop) ∧
    ∀ emojiId emojiName animated, a = .react emojiId emojiName animated →
      ∀ content, a' ≠ .sendMessage content

theorem NoMorePermissive.refl (a : BotAction) : NoMorePermissive a a := by
  refine ⟨id, ?_⟩
  rintro emojiId emojiName animated rfl content h
  cases h

theorem noMorePermissive_noop (a : BotAction) : NoMorePermissive a .noop := by
  refine ⟨fun _ => rfl, ?_⟩
  intro emojiId emojiName animated _ content h
  cases h

/-- In the mode that permits the reaction, every action becomes the reaction. -/
theorem release_reactOnly {suspicion : SuspicionLevel} {bot : BotConfig} {maxSendChars total : ℕ}
    {proposal : ActionProposal} {backend : Text} {reading : Option Text} :
    release suspicion .reactOnly bot maxSendChars
        (proposalToAction proposal bot total backend reading) =
      if proposalToAction proposal bot total backend reading ≠ .noop ∧ mayReact .reactOnly bot then
        asReact bot
      else .noop := by
  rcases proposalToAction_cases bot proposal total backend reading with h | h | ⟨content, h⟩
  · rw [h, release_noop]
    simp
  · rw [h, release_react]
    simp
  · have hsend : ¬ maySend .reactOnly suspicion bot = true := by
      simp [maySend]
    rw [h, release_sendMessage, if_neg hsend]
    simp

namespace TrustedCore

variable {F σ : Type}

/-! ### The triggers -/

/-- The state `next` is `core` with one further protective trigger active at `now`. -/
inductive Triggered (core : TrustedCore F σ) (now : Instant) : TrustedCore F σ → Prop
  | killSwitch : Triggered core now (core.setEmergencyKillSwitch true)
  | budgetLow (budget : SessionBudget) (h : budget.isLow = true) :
      Triggered core now { core with sessionBudget := budget }
  | breakerOpen (breaker : HttpCircuitBreaker) (h : breaker.isOpen now = true) :
      Triggered core now { core with breaker := breaker }
  | failureSpike (failures : List Instant)
      (h : core.runtime.sandboxFailureThreshold ≤
        (trimFront (fromMillis core.runtime.sandboxFailureWindowMs) now failures).length) :
      Triggered core now { core with sandboxFailures := failures }

/-- As many analyzer failures as the threshold lie within the window. -/
def Spiking (core : TrustedCore F σ) (now : Instant) : Prop :=
  core.runtime.sandboxFailureThreshold ≤
    (trimFront (fromMillis core.runtime.sandboxFailureWindowMs) now core.sandboxFailures).length

instance (core : TrustedCore F σ) (now : Instant) : Decidable (core.Spiking now) :=
  inferInstanceAs (Decidable (_ ≤ _))

/-- The mode without an override. -/
theorem effectiveMode_eq (core : TrustedCore F σ) (h : core.runtime.modeOverride = none)
    (now : Instant) : core.effectiveMode now =
      if core.runtime.emergencyKillSwitch then .fullDisable
      else if core.sessionBudget.isLow then .reactOnly
      else if core.breaker.isOpen now then .observeOnly
      else if core.Spiking now then .auditOnly
      else .normal := by
  have h' : (core.trimSandboxFailures now).runtime.modeOverride = none := h
  unfold effectiveMode targetMode
  simp only [h']
  split_ifs <;> first | rfl | contradiction

/-- The guards before the analyzer, without the mode. -/
def Eligible (core : TrustedCore F σ) (ctx : MessageContext) (now : Instant) : Prop :=
  ctx.authorIsBot = false ∧ core.allowGuild ctx.guildId = true ∧
    core.allowChannel ctx.channelId = true ∧ ¬ core.duplicateGuard.Live ctx.messageId now

theorem admitted_iff_eligible {core : TrustedCore F σ} {ctx : MessageContext} {now : Instant} :
    core.Admitted ctx now ↔ core.effectiveMode now ≠ .fullDisable ∧ core.Eligible ctx now := by
  constructor
  · intro h
    exact ⟨h.mode, h.author, h.guild, h.channel, h.fresh⟩
  · rintro ⟨hmode, hauthor, hguild, hchannel, hfresh⟩
    exact ⟨hmode, hauthor, hguild, hchannel, hfresh⟩

/-- The state `core` does nothing where `next`, whose budget has become low, reacts. -/
structure BudgetLifts [F64 F] (nfkc : Text → Text) (core next : TrustedCore F σ)
    (ctx : MessageContext) (content : Text) (now : Instant) : Prop where
  killSwitch : core.runtime.emergencyKillSwitch = false
  budgetBefore : core.sessionBudget.isLow = false
  budgetAfter : next.sessionBudget.isLow = true
  eligible : core.Eligible ctx now
  passes : core.Passes ctx now
  mayReact : mayReact .reactOnly core.botConfig = true
  proposed : core.proposed nfkc content ≠ .noop
  /-- The failures stopped the action before, or its text, which shows nothing once it is cut. -/
  stopped : core.Spiking now ∨ ∃ text, core.proposed nfkc content = .sendMessage text ∧
    maySend .normal (classifySuspiciousInput nfkc content core.suspiciousCfg) core.botConfig = true ∧
      isBlank (text.take core.runtime.maxSendChars) = true

/-! ### What a trigger changes -/

section Decide

variable [F64 F] {nfkc : Text → Text} {core next : TrustedCore F σ} {ctx : MessageContext}
  {content : Text} {now : Instant} {order : IterOrder UInt64 Instant}

/-- Two states that admit alike, limit alike and respond alike decide alike. -/
theorem action_congr (hadm : next.Admitted ctx now ↔ core.Admitted ctx now)
    (hpass : next.Passes ctx now ↔ core.Passes ctx now)
    (hresp : next.response nfkc content now = core.response nfkc content now) :
    (next.decideMessage nfkc ctx content now order).1.action =
      (core.decideMessage nfkc ctx content now order).1.action := by
  by_cases hboth : core.Admitted ctx now ∧ core.Passes ctx now
  · rw [decideMessage_eq_response hboth.1 hboth.2,
      decideMessage_eq_response (hadm.2 hboth.1) (hpass.2 hboth.2), hresp]
  · have hcore : (core.decideMessage nfkc ctx content now order).1.action = .noop :=
      decideMessage_noop_iff.2 fun h => hboth ⟨h.1, h.2.1⟩
    have hnext : (next.decideMessage nfkc ctx content now order).1.action = .noop :=
      decideMessage_noop_iff.2 fun h => hboth ⟨hadm.1 h.1, hpass.1 h.2.1⟩
    rw [hcore, hnext]

/-- Where the mode stays the same, other failures and another budget change nothing. -/
theorem action_eq_of_mode (failures : List Instant) (budget : SessionBudget)
    (hmode : ({ core with sandboxFailures := failures, sessionBudget := budget } :
      TrustedCore F σ).effectiveMode now = core.effectiveMode now) :
    (({ core with sandboxFailures := failures, sessionBudget := budget } :
        TrustedCore F σ).decideMessage nfkc ctx content now order).1.action =
      (core.decideMessage nfkc ctx content now order).1.action := by
  refine action_congr ?_ ?_ ?_
  · rw [admitted_iff_eligible, admitted_iff_eligible, hmode]
    exact Iff.rfl
  · have hsame : ({ core with sandboxFailures := failures, sessionBudget := budget } :
        TrustedCore F σ).SameLimits core := ⟨rfl, rfl, rfl, rfl, rfl, rfl, rfl, rfl, rfl, rfl⟩
    exact ⟨hsame.symm.passes, hsame.passes⟩
  · rw [response_eq_release, response_eq_release, hmode]
    rfl

/-- Nothing leaves a core with an open breaker. -/
theorem noop_of_breaker_open (h : core.breaker.isOpen now = true) :
    (core.decideMessage nfkc ctx content now order).1.action = .noop := by
  refine decideMessage_noop_iff.2 fun hall => ?_
  rw [hall.2.1.breaker] at h
  cases h

/-- Nothing leaves a core in a mode without outbound actions. -/
theorem noop_of_mode (h : core.effectiveMode now ≠ .normal) (h' : core.effectiveMode now ≠ .reactOnly) :
    (core.decideMessage nfkc ctx content now order).1.action = .noop := by
  refine decideMessage_noop_iff.2 fun hall => ?_
  obtain ⟨hmode | hmode, -⟩ := compileResponse_ne_noop hall.2.2
  · exact h hmode
  · exact h' hmode

/-- In the mode of a low budget the action is the reaction, where there is one. -/
theorem reactOnly_action (hmode : core.effectiveMode now = .reactOnly) :
    (core.decideMessage nfkc ctx content now order).1.action ≠ .noop ↔
      core.Eligible ctx now ∧ core.Passes ctx now ∧ core.proposed nfkc content ≠ .noop ∧
        mayReact .reactOnly core.botConfig = true := by
  have hadm : core.Admitted ctx now ↔ core.Eligible ctx now := by
    rw [admitted_iff_eligible, hmode]
    exact and_iff_right (by decide)
  have hresp : core.response nfkc content now ≠ .noop ↔
      core.proposed nfkc content ≠ .noop ∧ mayReact .reactOnly core.botConfig = true := by
    rw [response_eq_release, hmode]
    unfold proposed
    rw [release_reactOnly]
    split_ifs with h
    · exact iff_of_true (asReact_ne_noop _) h
    · exact iff_of_false (fun hne => hne rfl) h
  rw [ne_eq, decideMessage_noop_iff, not_not, hadm, hresp]

/-- In that mode no text leaves the core. -/
theorem reactOnly_ne_sendMessage (hmode : core.effectiveMode now = .reactOnly) (text : Text) :
    (core.decideMessage nfkc ctx content now order).1.action ≠ .sendMessage text := by
  intro htext
  obtain ⟨-, -, hresp⟩ := decideMessage_sendMessage htext
  have hne : core.response nfkc content now ≠ .noop := by
    rw [hresp]
    nofun
  obtain ⟨-, -, hreact⟩ := compileResponse_ne_noop hne
  cases (hreact (Or.inl hmode)).symm.trans hresp

omit [F64 F] in
/-- A text or a reaction that is stopped in normal mode, although the reaction may be used. -/
theorem normal_stops_iff (hmode : core.effectiveMode now = .normal)
    (hreact : mayReact .reactOnly core.botConfig = true)
    (hproposed : core.proposed nfkc content ≠ .noop) :
    core.response nfkc content now = .noop ↔
      ∃ text, core.proposed nfkc content = .sendMessage text ∧
        maySend .normal (classifySuspiciousInput nfkc content core.suspiciousCfg) core.botConfig =
          true ∧ isBlank (text.take core.runtime.maxSendChars) = true := by
  have hreact' : mayReact .normal core.botConfig = true := hreact
  rw [response_eq_release, hmode]
  rcases proposalToAction_cases core.botConfig (core.proposalFor nfkc content)
    (min (core.detector content).totalCount (max core.botConfig.maxCountCap 1))
    (core.detector content).matchedBackend (core.detector content).matchedReadings.head? with
    h | h | ⟨text, h⟩
  · exact absurd h hproposed
  · -- the reaction is not stopped
    have hp : core.proposed nfkc content = asReact core.botConfig := h
    rw [hp, release_react, if_pos hreact']
    refine iff_of_false (asReact_ne_noop _) ?_
    rintro ⟨text, htext, -⟩
    cases htext
  · have hp : core.proposed nfkc content = .sendMessage text := h
    rw [hp, release_sendMessage]
    split_ifs with hsend hblank
    · exact iff_of_true rfl ⟨text, rfl, hsend, hblank⟩
    · refine iff_of_false ?_ ?_
      · intro hnoop
        cases hnoop
      · rintro ⟨text', htext, -, hblank'⟩
        cases htext
        exact hblank hblank'
    · refine iff_of_false ?_ ?_
      · intro hnoop
        cases hnoop
      · rintro ⟨text', -, hsend', -⟩
        exact hsend hsend'

/-! ### A low budget -/

omit [F64 F] in
/-- The mode before, past the kill switch and with a closed breaker. -/
theorem effectiveMode_closed (hoverride : core.runtime.modeOverride = none)
    (hkill : core.runtime.emergencyKillSwitch = false) (hbefore : core.sessionBudget.isLow = false)
    (hbreaker : core.breaker.isOpen now = false) :
    core.effectiveMode now = if core.Spiking now then .auditOnly else .normal := by
  rw [effectiveMode_eq core hoverride now]
  simp [hkill, hbefore, hbreaker]

/-- Where the budget lifts a stop, the core did nothing before. -/
theorem BudgetLifts.noop (h : core.BudgetLifts nfkc next ctx content now)
    (hoverride : core.runtime.modeOverride = none) :
    (core.decideMessage nfkc ctx content now order).1.action = .noop := by
  have hmode := effectiveMode_closed hoverride h.killSwitch h.budgetBefore h.passes.breaker
  by_cases hspike : core.Spiking now
  · rw [if_pos hspike] at hmode
    exact noop_of_mode (by rw [hmode]; decide) (by rw [hmode]; decide)
  · rw [if_neg hspike] at hmode
    refine decideMessage_noop_iff.2 fun hall => hall.2.2 ?_
    exact (normal_stops_iff hmode h.mayReact h.proposed).2 (h.stopped.resolve_left hspike)

/-- A stop that is lifted is one of those that the low budget lifts. -/
theorem budgetLifts_of_noop (hoverride : core.runtime.modeOverride = none)
    (hkill : core.runtime.emergencyKillSwitch = false) (hbefore : core.sessionBudget.isLow = false)
    (hafter : next.sessionBudget.isLow = true) (heligible : core.Eligible ctx now)
    (hpasses : core.Passes ctx now) (hreact : mayReact .reactOnly core.botConfig = true)
    (hproposed : core.proposed nfkc content ≠ .noop)
    (hnoop : (core.decideMessage nfkc ctx content now order).1.action = .noop) :
    core.BudgetLifts nfkc next ctx content now := by
  refine ⟨hkill, hbefore, hafter, heligible, hpasses, hreact, hproposed, ?_⟩
  have hmode := effectiveMode_closed hoverride hkill hbefore hpasses.breaker
  by_cases hspike : core.Spiking now
  · exact Or.inl hspike
  · rw [if_neg hspike] at hmode
    have hadm : core.Admitted ctx now :=
      admitted_iff_eligible.2 ⟨by rw [hmode]; decide, heligible⟩
    rw [decideMessage_eq_response hadm hpasses] at hnoop
    exact Or.inr ((normal_stops_iff hmode hreact hproposed).1 hnoop)

/-- A core whose budget becomes low, past the kill switch. -/
theorem budgetLow_iff (hoverride : core.runtime.modeOverride = none)
    (hkill : core.runtime.emergencyKillSwitch = false) (hbefore : core.sessionBudget.isLow = false)
    (budget : SessionBudget) (hlow : budget.isLow = true) :
    NoMorePermissive (core.decideMessage nfkc ctx content now order).1.action
        (({ core with sessionBudget := budget } : TrustedCore F σ).decideMessage nfkc ctx content now
          order).1.action ↔
      ¬ core.BudgetLifts nfkc { core with sessionBudget := budget } ctx content now := by
  have hnext : ({ core with sessionBudget := budget } : TrustedCore F σ).effectiveMode now =
      .reactOnly := by
    rw [effectiveMode_eq { core with sessionBudget := budget } hoverride now]
    simp [hkill, hlow]
  have hsame : ({ core with sessionBudget := budget } : TrustedCore F σ).SameLimits core :=
    ⟨rfl, rfl, rfl, rfl, rfl, rfl, rfl, rfl, rfl, rfl⟩
  have hact := @reactOnly_action _ _ _ nfkc { core with sessionBudget := budget } ctx content now
    order hnext
  constructor
  · -- a stop that is lifted would permit more
    intro hmono hlifts
    exact hact.2 ⟨hlifts.eligible, hsame.passes hlifts.passes, hlifts.proposed, hlifts.mayReact⟩
      (hmono.1 (hlifts.noop hoverride))
  · intro hlifts
    refine ⟨fun hnoop => ?_, fun _ _ _ _ text => reactOnly_ne_sendMessage hnext text⟩
    by_contra hne
    obtain ⟨heligible, hpasses, hproposed, hreact⟩ := hact.1 hne
    exact hlifts (budgetLifts_of_noop hoverride hkill hbefore hlow heligible
      (hsame.symm.passes hpasses) hreact hproposed hnoop)

/-- Where the budget is what it was, no stop is lifted. -/
theorem not_budgetLifts (h : next.sessionBudget = core.sessionBudget) :
    ¬ core.BudgetLifts nfkc next ctx content now := by
  intro hlifts
  have hafter := hlifts.budgetAfter
  rw [h, hlifts.budgetBefore] at hafter
  cases hafter

/-- A spike of failures permits no more. -/
theorem noMorePermissive_of_spiking (hoverride : core.runtime.modeOverride = none)
    (failures : List Instant)
    (hspike : ({ core with sandboxFailures := failures } : TrustedCore F σ).Spiking now) :
    NoMorePermissive (core.decideMessage nfkc ctx content now order).1.action
      (({ core with sandboxFailures := failures } : TrustedCore F σ).decideMessage nfkc ctx content
        now order).1.action := by
  have hmode := effectiveMode_eq core hoverride now
  have hnext := effectiveMode_eq { core with sandboxFailures := failures } hoverride now
  simp only [hspike, if_true] at hnext
  by_cases hsame : core.runtime.emergencyKillSwitch = true ∨ core.sessionBudget.isLow = true ∨
      core.breaker.isOpen now = true
  · -- an earlier trigger of the list decides the mode, with the spike and without it
    have heq := @action_eq_of_mode _ _ _ nfkc core ctx content now order failures core.sessionBudget
      (by
        rw [hnext, hmode]
        rcases hsame with hkill | hbefore | hopen
        · rw [if_pos hkill, if_pos hkill]
        · rw [if_pos hbefore, if_pos hbefore]
        · rw [if_pos hopen, if_pos hopen])
    rw [heq]
    exact NoMorePermissive.refl _
  · obtain ⟨hkill, hrest⟩ := not_or.1 hsame
    obtain ⟨hbefore, hbreaker⟩ := not_or.1 hrest
    rw [if_neg hkill, if_neg hbefore, if_neg hbreaker] at hnext
    have hnoop := @noop_of_mode _ _ _ nfkc { core with sandboxFailures := failures } ctx content now
      order (by rw [hnext]; decide) (by rw [hnext]; decide)
    rw [hnoop]
    exact noMorePermissive_noop _

/-- **When one more fault permits no more.**  In every state without an override, for every message and
every answer of the analyzer: the decision with one further trigger is not more permissive, unless the
trigger is a low budget which lifts a stop. -/
theorem degradation_iff (hoverride : core.runtime.modeOverride = none)
    (htrigger : Triggered core now next) :
    NoMorePermissive (core.decideMessage nfkc ctx content now order).1.action
        (next.decideMessage nfkc ctx content now order).1.action ↔
      ¬ core.BudgetLifts nfkc next ctx content now := by
  cases htrigger with
  | killSwitch =>
    have hnoop : ((core.setEmergencyKillSwitch true).decideMessage nfkc ctx content now
        order).1.action = .noop := by
      have hdisabled : (core.setEmergencyKillSwitch true).effectiveMode now = .fullDisable :=
        effectiveMode_of_killSwitch now rfl
      exact noop_of_mode (by rw [hdisabled]; decide) (by rw [hdisabled]; decide)
    rw [hnoop]
    exact iff_of_true (noMorePermissive_noop _) (not_budgetLifts rfl)
  | budgetLow budget hlow =>
    by_cases hsame : core.runtime.emergencyKillSwitch = true ∨ core.sessionBudget.isLow = true
    · -- the mode is what it was
      have heq := @action_eq_of_mode _ _ _ nfkc core ctx content now order core.sandboxFailures budget
        (by
          rw [effectiveMode_eq { core with sessionBudget := budget } hoverride now,
            effectiveMode_eq core hoverride now]
          rcases hsame with hkill | hbefore
          · rw [if_pos hkill, if_pos hkill]
          · rw [if_pos hlow, if_pos hbefore])
      rw [heq]
      refine iff_of_true (NoMorePermissive.refl _) fun hlifts => ?_
      rcases hsame with hkill | hbefore
      · exact Bool.false_ne_true (hlifts.killSwitch.symm.trans hkill)
      · exact Bool.false_ne_true (hlifts.budgetBefore.symm.trans hbefore)
    · obtain ⟨hkill, hbefore⟩ := not_or.1 hsame
      exact budgetLow_iff hoverride (by simpa using hkill) (by simpa using hbefore) budget hlow
  | breakerOpen breaker hopen =>
    have hnoop := @noop_of_breaker_open _ _ _ nfkc { core with breaker := breaker } ctx content now
      order hopen
    rw [hnoop]
    exact iff_of_true (noMorePermissive_noop _) (not_budgetLifts rfl)
  | failureSpike failures hspike =>
    exact iff_of_true (noMorePermissive_of_spiking hoverride failures hspike) (not_budgetLifts rfl)

end Decide

/-- A core whose analyzer failed on its first message, which is as often as the threshold says; from
then on it asks for the reaction. -/
def failedCore : TrustedCore ℚ ℕ :=
  reached id (fun _ n => (if n = 0 then .error .timeout else .ok .reactOnce, n + 1)) 0
    (fun _ => ⟨.morphologicalReading, [], [], 1, 0, 1, false, 0⟩) canonicalBotConfig
    { defaultRuntimeProtectionConfig ℚ with sandboxFailureThreshold := 1 } 0
    [.decideMessage firstMessage "oo".toList 0 (.listed _ _)]

/-- Its next message. -/
def nextMessage : MessageContext := { firstMessage with messageId := 9 }

theorem failedCore_triggered :
    Triggered failedCore 1000000000 (failedCore.updateSessionBudget 1000 1 86400) :=
  Triggered.budgetLow (SessionBudget.new 1000 1 86400 failedCore.runtime.sessionBudgetLowWatermark)
    (by decide)

/-- With a low budget it reacts, where it did nothing because of the failures. -/
theorem failedCore_reacts :
    failedCore.runtime.modeOverride = none ∧ failedCore.Spiking 1000000000 ∧
      Triggered failedCore 1000000000 (failedCore.updateSessionBudget 1000 1 86400) ∧
      (failedCore.decideMessage id nextMessage "oo".toList 1000000000 (.listed _ _)).1.action =
        .noop ∧
      ((failedCore.updateSessionBudget 1000 1 86400).decideMessage id nextMessage "oo".toList
        1000000000 (.listed _ _)).1.action ≠ .noop :=
  ⟨by decide +kernel, by decide +kernel, failedCore_triggered, by decide +kernel, by decide +kernel⟩

theorem degradation_iff_failedCore :
    NoMorePermissive
        (failedCore.decideMessage id nextMessage "oo".toList 1000000000 (.listed _ _)).1.action
        ((failedCore.updateSessionBudget 1000 1 86400).decideMessage id nextMessage "oo".toList
          1000000000 (.listed _ _)).1.action ↔
      ¬ failedCore.BudgetLifts id (failedCore.updateSessionBudget 1000 1 86400) nextMessage
        "oo".toList 1000000000 :=
  degradation_iff (by decide +kernel) failedCore_triggered

end TrustedCore

end OoBot
