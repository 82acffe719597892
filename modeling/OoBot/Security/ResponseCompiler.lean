import OoBot.App.AnalyzeMessage
import OoBot.Sandbox.Abi
import OoBot.Security.Limiters

/-!
# `suspicious_input.rs` and `response_compiler.rs`

How suspicious a message is, and how a proposal of the untrusted analyzer becomes an action: the
proposal is turned into an action within the count of the trusted detector, softened for suspicious
messages, gated by the mode and the action policy, cut to the maximal length and dropped when nothing
valid is left.

Everything after the first step is `release`: it lets the reaction through (`release_react`), and a
text only where nothing asks for the reaction instead (`release_sendMessage`).
-/

namespace OoBot

/-! ### Suspicious input -/

/-- `SuspicionLevel`. -/
inductive SuspicionLevel
  | none
  | soft
  | hard
  deriving DecidableEq, Repr

/-- `SuspiciousInputConfig`. -/
structure SuspiciousInputConfig where
  softCharLimit : ℕ
  hardCharLimit : ℕ
  repetitionThreshold : ℕ
  deriving DecidableEq

/-- `SuspiciousInputConfig::default`. -/
def SuspiciousInputConfig.default : SuspiciousInputConfig := ⟨2000, 8000, 256⟩

/-- `has_bidi_control`. -/
def hasBidiControl (s : Text) : Bool :=
  s.any fun ch => ['\u202A', '\u202B', '\u202C', '\u202D', '\u202E', '\u2066', '\u2067', '\u2068',
    '\u2069'].contains ch

/-- The loop of `has_excessive_repetition`. -/
def repetitionFrom (threshold : ℕ) : Option Char → ℕ → Text → Bool
  | _, _, [] => false
  | prev, streak, ch :: s =>
      if prev = some ch then
        if streak + 1 ≥ threshold then true else repetitionFrom threshold prev (streak + 1) s
      else repetitionFrom threshold (some ch) 1 s

/-- `has_excessive_repetition`. -/
def hasExcessiveRepetition (s : Text) (threshold : ℕ) : Bool := repetitionFrom threshold none 0 s

/-- `classify_suspicious_input`. -/
def classifySuspiciousInput (nfkc : Text → Text) (content : Text) (cfg : SuspiciousInputConfig) :
    SuspicionLevel :=
  let charCount := content.length
  if charCount ≥ cfg.hardCharLimit then .hard
  else if charCount ≥ cfg.softCharLimit then .soft
  else if hasBidiControl content || hasExcessiveRepetition content cfg.repetitionThreshold then .soft
  else if (nfkc content).length > 2 * charCount then .soft
  else .none

/-- A message without suspicion is shorter than the soft limit. -/
theorem length_lt_of_classify_none {nfkc : Text → Text} {content : Text}
    {cfg : SuspiciousInputConfig} (h : classifySuspiciousInput nfkc content cfg = .none) :
    content.length < cfg.softCharLimit := by
  unfold classifySuspiciousInput at h
  simp only at h
  split_ifs at h with h₁ h₂
  all_goals omega

/-! ### Compiling a response -/

/-- `as_react`. -/
def asReact (bot : BotConfig) : BotAction := bot.reaction.action

@[simp] theorem asReact_ne_noop (bot : BotConfig) : asReact bot ≠ .noop := nofun

/-- `repeat_stamp`. -/
def repeatStamp (stamp : Text) (n : ℕ) : Text := [' '].intercalate (List.replicate n stamp)

/-- The replacements of `render_template`, in order. -/
def templateReplacements (count : ℕ) (stamp matchedBackend matchedReading actionKind : Text) :
    List (Text × Text) :=
  [("$\x7bcount\x7d".toList, sanitizeTemplateValue (natText count)),
    ("$\x7bstamp\x7d".toList, sanitizeTemplateValue stamp),
    ("$\x7bmatched_backend\x7d".toList, sanitizeTemplateValue matchedBackend),
    ("$\x7bmatched_reading\x7d".toList, sanitizeTemplateValue matchedReading),
    ("$\x7baction_kind\x7d".toList, sanitizeTemplateValue actionKind)]

/-- `render_template`. -/
def renderTemplate (template : Text) (count : ℕ)
    (stamp matchedBackend matchedReading actionKind : Text) : Option Text :=
  let output := (templateReplacements count stamp matchedBackend matchedReading actionKind).foldl
    (fun output r => replace output r.1 r.2) template
  if contains output ['$', '{'] then none
  else if output = stamp then some (repeatStamp stamp count)
  else some output

/-- A text with nothing to show. -/
def isBlank (content : Text) : Bool := (trim content).isEmpty

/-- `proposal_to_action`. -/
def proposalToAction (proposal : ActionProposal) (bot : BotConfig) (detectorTotalCount : ℕ)
    (matchedBackend : Text) (matchedReading : Option Text) : BotAction :=
  match proposal with
  | .noop | .defer | .reject _ => .noop
  | .suspiciousInput => .noop
  | .specialPhrase => .sendMessage bot.stampText
  | .reactOnce => asReact bot
  | .sendStamped count =>
      let repeats := min count.toNat (max detectorTotalCount 1)
      if repeats ≤ 1 then asReact bot
      else
        match renderTemplate bot.sendTemplate repeats bot.stampText matchedBackend
          (matchedReading.getD []) "send_message".toList with
        | some content => if !isBlank content then .sendMessage content else .noop
        | none => .noop

/-- `apply_mode_gate`. -/
def applyModeGate (mode : RuntimeMode) (action : BotAction) (bot : BotConfig) : BotAction :=
  match mode with
  | .normal => action
  | .observeOnly | .auditOnly | .fullDisable => .noop
  | .reactOnly =>
      match action with
      | .sendMessage _ => asReact bot
      | other => other

/-- `apply_action_policy`. -/
def applyActionPolicy (action : BotAction) (bot : BotConfig) : BotAction :=
  match bot.actionPolicy with
  | .reactOrSend => action
  | .reactOnly =>
      match action with
      | .sendMessage _ => asReact bot
      | other => other
  | .noOutbound => .noop

/-- `enforce_send_cap`. -/
def enforceSendCap (action : BotAction) (maxSendChars : ℕ) : BotAction :=
  match action with
  | .sendMessage content =>
      let capped := content.take maxSendChars
      if isBlank capped then .noop else .sendMessage capped
  | other => other

/-- `is_invalid_action`, the same function in `response_compiler.rs` and `core_governor.rs`. -/
def isInvalidAction (action : BotAction) : Bool :=
  match action with
  | .noop => false
  | .react emojiId emojiName _ => emojiId == 0 || emojiName.isEmpty
  | .sendMessage content => isBlank content

/-- `CompileContext`. -/
structure CompileContext where
  proposal : ActionProposal
  mode : RuntimeMode
  suspicion : SuspicionLevel
  bot : BotConfig
  maxSendChars : ℕ
  matchedBackend : Text
  matchedReading : Option Text
  countCap : ℕ
  detectorTotalCount : ℕ

/-- A message becomes the reaction when the input is suspicious. -/
def soften (suspicion : SuspicionLevel) (proposed : BotAction) (bot : BotConfig) : BotAction :=
  match suspicion, proposed with
  | .soft, .sendMessage _ => asReact bot
  | _, proposed => proposed

/-- `compile_response`. -/
def compileResponse (ctx : CompileContext) : BotAction :=
  let cappedCount := min ctx.detectorTotalCount (max ctx.countCap 1)
  let proposed := proposalToAction ctx.proposal ctx.bot cappedCount ctx.matchedBackend
    ctx.matchedReading
  let softened := soften ctx.suspicion proposed ctx.bot
  let gated := applyModeGate ctx.mode softened ctx.bot
  let policyApplied := applyActionPolicy gated ctx.bot
  let capped := enforceSendCap policyApplied ctx.maxSendChars
  if isInvalidAction capped then .noop else capped

/-- `compile_response_from_detection`. -/
def compileResponseFromDetection (proposal : ActionProposal) (mode : RuntimeMode)
    (suspicion : SuspicionLevel) (bot : BotConfig) (maxSendChars countCap : ℕ)
    (detection : Option DetectionReport) : BotAction :=
  compileResponse
    { proposal := proposal
      mode := mode
      suspicion := suspicion
      bot := bot
      maxSendChars := maxSendChars
      matchedBackend := (detection.map (·.matchedBackend)).getD "morphological_reading".toList
      matchedReading := detection.bind (·.matchedReadings.head?)
      countCap := countCap
      detectorTotalCount := (detection.map (·.totalCount)).getD 0 }

/-! ### What the pipeline lets through -/

/-- The pipeline of `compile_response` after the first step. -/
def release (suspicion : SuspicionLevel) (mode : RuntimeMode) (bot : BotConfig) (maxSendChars : ℕ)
    (proposed : BotAction) : BotAction :=
  let capped := enforceSendCap
    (applyActionPolicy (applyModeGate mode (soften suspicion proposed bot) bot) bot) maxSendChars
  if isInvalidAction capped then .noop else capped

theorem compileResponse_eq (ctx : CompileContext) :
    compileResponse ctx = release ctx.suspicion ctx.mode ctx.bot ctx.maxSendChars
      (proposalToAction ctx.proposal ctx.bot (min ctx.detectorTotalCount (max ctx.countCap 1))
        ctx.matchedBackend ctx.matchedReading) :=
  rfl

/-- The mode, the policy and the configured reaction admit a reaction. -/
def mayReact (mode : RuntimeMode) (bot : BotConfig) : Bool :=
  (mode == .normal || mode == .reactOnly) && bot.actionPolicy != .noOutbound &&
    !isInvalidAction (asReact bot)

/-- The mode, the policy and the suspicion admit a text. -/
def maySend (mode : RuntimeMode) (suspicion : SuspicionLevel) (bot : BotConfig) : Bool :=
  mode == .normal && bot.actionPolicy == .reactOrSend && suspicion != .soft

section Release

variable (suspicion : SuspicionLevel) (mode : RuntimeMode) (bot : BotConfig) (maxSendChars : ℕ)

@[simp] theorem release_noop : release suspicion mode bot maxSendChars .noop = .noop := by
  cases suspicion <;> cases mode <;> cases h : bot.actionPolicy <;>
    simp [release, soften, applyModeGate, applyActionPolicy, h, enforceSendCap, isInvalidAction]

/-- The reaction passes where it may. -/
theorem release_react :
    release suspicion mode bot maxSendChars (asReact bot) =
      if mayReact mode bot then asReact bot else .noop := by
  have hsoft : soften suspicion (asReact bot) bot = asReact bot := by
    cases suspicion <;> rfl
  have hgate : applyModeGate mode (asReact bot) bot =
      if mode == .normal || mode == .reactOnly then asReact bot else .noop := by
    cases mode <;> rfl
  have hpolicy : applyActionPolicy (asReact bot) bot =
      if bot.actionPolicy != .noOutbound then asReact bot else .noop := by
    unfold applyActionPolicy
    cases bot.actionPolicy <;> rfl
  have hnoop : applyActionPolicy .noop bot = .noop := by
    unfold applyActionPolicy
    cases bot.actionPolicy <;> rfl
  have hcap : enforceSendCap (asReact bot) maxSendChars = asReact bot := rfl
  unfold release mayReact
  simp only [hsoft, hgate]
  cases hm : (mode == .normal || mode == .reactOnly)
  · simp [hnoop, enforceSendCap, isInvalidAction]
  · simp only [if_true, hpolicy, Bool.true_and]
    cases hp : (bot.actionPolicy != .noOutbound)
    · simp [enforceSendCap, isInvalidAction]
    · simp only [if_true, hcap, Bool.true_and]
      cases isInvalidAction (asReact bot) <;> rfl

/-- Where a text may not be sent it is treated as the reaction. -/
theorem release_of_not_maySend (h : maySend mode suspicion bot = false) (content : Text) :
    release suspicion mode bot maxSendChars (.sendMessage content) =
      release suspicion mode bot maxSendChars (asReact bot) := by
  unfold release
  cases suspicion with
  | soft => rfl
  | none | hard =>
    cases mode with
    | normal =>
      unfold maySend at h
      cases hp : bot.actionPolicy with
      | reactOrSend => simp [hp] at h
      | reactOnly =>
        simp only [soften, applyModeGate, applyActionPolicy, hp]
        rfl
      | noOutbound => simp only [applyActionPolicy, hp]
    | reactOnly | observeOnly | auditOnly | fullDisable => rfl

/-- A text passes where it may, cut to the maximal length; elsewhere it counts as the reaction. -/
theorem release_sendMessage (content : Text) :
    release suspicion mode bot maxSendChars (.sendMessage content) =
      if maySend mode suspicion bot then
        if isBlank (content.take maxSendChars) then .noop
        else .sendMessage (content.take maxSendChars)
      else if mayReact mode bot then asReact bot else .noop := by
  by_cases hsend : maySend mode suspicion bot
  · rw [if_pos hsend]
    obtain ⟨⟨hmode, hpolicy⟩, hsusp⟩ : (mode = .normal ∧ bot.actionPolicy = .reactOrSend) ∧
        suspicion ≠ .soft := by simpa [maySend] using hsend
    subst hmode
    have hsoft : soften suspicion (.sendMessage content) bot = .sendMessage content := by
      cases suspicion with
      | soft => exact absurd rfl hsusp
      | none => rfl
      | hard => rfl
    simp only [release, hsoft, applyModeGate, applyActionPolicy, hpolicy, enforceSendCap]
    by_cases hb : isBlank (content.take maxSendChars) <;> simp [hb, isInvalidAction]
  · rw [if_neg hsend, release_of_not_maySend _ _ _ _ (by simpa using hsend), release_react]

theorem proposalToAction_cases (proposal : ActionProposal) (total : ℕ) (backend : Text)
    (reading : Option Text) :
    proposalToAction proposal bot total backend reading = .noop ∨
      proposalToAction proposal bot total backend reading = asReact bot ∨
      ∃ content, proposalToAction proposal bot total backend reading = .sendMessage content := by
  cases proposal with
  | noop | defer | reject _ | suspiciousInput => exact Or.inl rfl
  | reactOnce => exact Or.inr (Or.inl rfl)
  | specialPhrase => exact Or.inr (Or.inr ⟨_, rfl⟩)
  | sendStamped count =>
    unfold proposalToAction
    simp only
    split_ifs
    · exact Or.inr (Or.inl rfl)
    · split
      · split_ifs
        · exact Or.inr (Or.inr ⟨_, rfl⟩)
        · exact Or.inl rfl
      · exact Or.inl rfl

/-- A reaction that passes has an outbound mode and policy. -/
theorem release_react_ne_noop
    (h : release suspicion mode bot maxSendChars (asReact bot) ≠ .noop) :
    (mode = .normal ∨ mode = .reactOnly) ∧ bot.actionPolicy ≠ .noOutbound ∧
      release suspicion mode bot maxSendChars (asReact bot) = asReact bot := by
  rw [release_react] at h ⊢
  split_ifs at h ⊢ with hm
  · obtain ⟨⟨hmode, hpolicy⟩, -⟩ : ((mode = .normal ∨ mode = .reactOnly) ∧
        bot.actionPolicy ≠ .noOutbound) ∧ isInvalidAction (asReact bot) = false := by
      simpa [mayReact] using hm
    exact ⟨hmode, hpolicy, rfl⟩
  · exact absurd rfl h

/-- Where an action is left, the mode and the policy are outbound; where one of them or the
suspicion asks for a reaction, the action is the reaction. -/
theorem compileResponse_ne_noop {ctx : CompileContext} (h : compileResponse ctx ≠ .noop) :
    (ctx.mode = .normal ∨ ctx.mode = .reactOnly) ∧ ctx.bot.actionPolicy ≠ .noOutbound ∧
      ((ctx.mode = .reactOnly ∨ ctx.bot.actionPolicy = .reactOnly ∨ ctx.suspicion = .soft) →
        compileResponse ctx = asReact ctx.bot) := by
  rw [compileResponse_eq] at h ⊢
  rcases proposalToAction_cases ctx.bot ctx.proposal
    (min ctx.detectorTotalCount (max ctx.countCap 1)) ctx.matchedBackend ctx.matchedReading with
    hp | hp | ⟨content, hp⟩
  · rw [hp, release_noop] at h
    exact absurd rfl h
  · rw [hp] at h ⊢
    obtain ⟨hmode, hpolicy, heq⟩ := release_react_ne_noop _ _ _ _ h
    exact ⟨hmode, hpolicy, fun _ => heq⟩
  · -- a text that may not be sent goes the way of the reaction
    rw [hp] at h ⊢
    by_cases hsend : maySend ctx.mode ctx.suspicion ctx.bot
    · obtain ⟨⟨hmode, hpolicy⟩, hsusp⟩ : (ctx.mode = .normal ∧
          ctx.bot.actionPolicy = .reactOrSend) ∧ ctx.suspicion ≠ .soft := by
        simpa [maySend] using hsend
      refine ⟨Or.inl hmode, by simp [hpolicy], ?_⟩
      rintro (hm | hp' | hs)
      · simp [hmode] at hm
      · simp [hpolicy] at hp'
      · exact absurd hs hsusp
    · rw [release_of_not_maySend _ _ _ _ (by simpa using hsend)] at h ⊢
      obtain ⟨hmode, hpolicy, heq⟩ := release_react_ne_noop _ _ _ _ h
      exact ⟨hmode, hpolicy, fun _ => heq⟩

end Release

end OoBot
