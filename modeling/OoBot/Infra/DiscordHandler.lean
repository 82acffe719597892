import Mathlib.Logic.Function.Basic
import OoBot.Audit.Record
import OoBot.Security.Inert

/-!
# `src/infra/discord_handler.rs`

Every message is handled by a task of its own.  A task locks the core to decide about the message, locks
it again to read the last detection for its audit event, and applies the action.  Other tasks may take
steps in between.

* What is read under the second lock is all that the event takes from the core, so reading and recording
  are one step.
* The core is shared by the tasks only: they decide, read the last detection, and report the status of a
  failed request.

The last detection is that of the last message which reached the detector (`lastDetection_run`), whichever
message that was, so `audit_rows_iff` says when the rows describe the messages they are about.
-/

namespace OoBot

/-- `serenity::model::channel::Message`. -/
structure Message where
  ctx : MessageContext
  content : Text

/-- `HandlerRuntimeMeta`. -/
structure HandlerRuntimeMeta where
  binaryVersion : Text
  configFingerprint : Text
  activeLsm : Text
  hardeningStatus : Text

/-- `Handler`, but for the core; `audit` says whether there is a store. -/
structure Handler where
  audit : Bool
  runtimeMeta : HandlerRuntimeMeta

/-! ### `Debug` texts -/

/-- The `Debug` text of a `BotAction`; `debugStr` is that of a `str`. -/
def BotAction.debug (debugStr : Text → Text) : BotAction → Text
  | .noop => "Noop".toList
  | .react emojiId emojiName animated =>
      "React \x7b emoji_id: ".toList ++ natText emojiId.toNat ++ ", emoji_name: ".toList ++
        debugStr emojiName ++ ", animated: ".toList ++
        (if animated then "true".toList else "false".toList) ++ " \x7d".toList
  | .sendMessage content =>
      "SendMessage \x7b content: ".toList ++ debugStr content ++ " \x7d".toList

/-- The `Debug` text of a `SuppressReason`. -/
def SuppressReason.debug : SuppressReason → Text
  | .selfTrigger => "SelfTrigger".toList
  | .duplicate => "Duplicate".toList
  | .cooldown => "Cooldown".toList
  | .rateLimit => "RateLimit".toList
  | .circuitOpen => "CircuitOpen".toList
  | .channelDenied => "ChannelDenied".toList
  | .guildDenied => "GuildDenied".toList
  | .modeRestricted => "ModeRestricted".toList
  | .suspicious => "Suspicious".toList
  | .invalidAction => "InvalidAction".toList

/-- The `Debug` text of a `RuntimeMode`. -/
def RuntimeMode.debug : RuntimeMode → Text
  | .normal => "Normal".toList
  | .observeOnly => "ObserveOnly".toList
  | .reactOnly => "ReactOnly".toList
  | .auditOnly => "AuditOnly".toList
  | .fullDisable => "FullDisable".toList

/-- The `Debug` text of a `SuspicionLevel`. -/
def SuspicionLevel.debug : SuspicionLevel → Text
  | .none => "None".toList
  | .soft => "Soft".toList
  | .hard => "Hard".toList

/-! ### Audit events -/

/-- The fields of an event that come from a detection. -/
structure DetectionFields where
  detectorBackend : Text
  matchedReadings : List Text
  sequenceHits : UInt64
  kanjiHits : UInt64
  totalCount : UInt64
  specialPhraseHit : Bool
  tokenCount : UInt64
  deriving DecidableEq

/-- These fields of an event. -/
def AuditEventInput.detectionFields (event : AuditEventInput) : DetectionFields :=
  ⟨event.detectorBackend, event.matchedReadings, event.sequenceHits, event.kanjiHits,
    event.totalCount, event.specialPhraseHit, event.tokenCount⟩

/-- These fields for a report, and the defaults without one. -/
def DetectionFields.of : Option DetectionReport → DetectionFields
  | some report => ⟨report.matchedBackend, report.matchedReadings, UInt64.ofNat report.sequenceHits,
      UInt64.ofNat report.kanjiHits, UInt64.ofNat report.totalCount, report.specialPhraseHit,
      UInt64.ofNat report.tokenCount⟩
  | none => ⟨"unknown".toList, [], 0, 0, 0, false, 0⟩

/-- What the texts of an event need: NFKC and the `Debug` text of a `str`. -/
structure EventTexts where
  nfkc : Text → Text
  debugStr : Text → Text

namespace Handler

variable (texts : EventTexts) (self : Handler)

/-- The event of `record_decision_audit`. -/
def decisionEvent (detection : Option DetectionReport) (msg : Message) (decision : ActionDecision)
    (processingTimeMs : UInt64) : AuditEventInput where
  eventType := if decision.action = .noop then .actionSuppressed else .responseCompiled
  binaryVersion := self.runtimeMeta.binaryVersion
  configFingerprint := self.runtimeMeta.configFingerprint
  detectorBackend := (detection.map (·.matchedBackend)).getD "unknown".toList
  matchedReadings := (detection.map (·.matchedReadings)).getD []
  sequenceHits := UInt64.ofNat ((detection.map (·.sequenceHits)).getD 0)
  kanjiHits := UInt64.ofNat ((detection.map (·.kanjiHits)).getD 0)
  totalCount := UInt64.ofNat ((detection.map (·.totalCount)).getD 0)
  specialPhraseHit := (detection.map (·.specialPhraseHit)).getD false
  selectedAction := decision.action.debug texts.debugStr
  suppressedReason := decision.suppressReason.map (·.debug)
  mode := decision.mode.debug
  activeLsm := self.runtimeMeta.activeLsm
  hardeningStatus := self.runtimeMeta.hardeningStatus
  processingTimeMs := processingTimeMs
  messageLength := UInt64.ofNat msg.content.length
  normalizedLength := UInt64.ofNat (texts.nfkc msg.content).length
  tokenCount := UInt64.ofNat ((detection.map (·.tokenCount)).getD 0)
  suspiciousFlags := [decision.suspicion.debug]
  truncatedFlag :=
    match decision.action with
    | .sendMessage content => content.length ≥ 1900
    | _ => false
  guildId := msg.ctx.guildId
  channelId := some msg.ctx.channelId
  userId := some msg.ctx.authorId
  messageId := some msg.ctx.messageId

/-- The event of `record_action_sent_audit`. -/
def actionSentEvent (msg : Message) (processingTimeMs : UInt64) : AuditEventInput where
  eventType := .actionSent
  binaryVersion := self.runtimeMeta.binaryVersion
  configFingerprint := self.runtimeMeta.configFingerprint
  activeLsm := self.runtimeMeta.activeLsm
  hardeningStatus := self.runtimeMeta.hardeningStatus
  processingTimeMs := processingTimeMs
  messageLength := UInt64.ofNat msg.content.length
  normalizedLength := UInt64.ofNat (texts.nfkc msg.content).length
  guildId := msg.ctx.guildId
  channelId := some msg.ctx.channelId
  userId := some msg.ctx.authorId
  messageId := some msg.ctx.messageId

/-- A decision event carries the fields of the detection that it was given. -/
theorem decisionEvent_detectionFields (detection : Option DetectionReport) (msg : Message)
    (decision : ActionDecision) (processingTimeMs : UInt64) :
    (self.decisionEvent texts detection msg decision processingTimeMs).detectionFields =
      .of detection := by
  cases detection <;> rfl

end Handler

/-! ### Tasks -/

/-- How far the task of a message has come. -/
inductive Task
  | waiting
  | decided (msg : Message) (decision : ActionDecision)
  | applying (msg : Message)
  | done

/-- The tasks with the core and the audit store that they share. -/
structure Handling (F σ T : Type) where
  core : TrustedCore F σ
  tasks : T → Task
  /-- What `record_event` has stored. -/
  events : List AuditEventInput

/-- The steps of the tasks.  `stored` says whether `record_event` succeeds, `result` what the API
answers: an error may have a status. -/
inductive HandlerStep (T : Type)
  | message (t : T) (msg : Message) (now : Instant) (order : IterOrder UInt64 Instant)
  | record (t : T) (processingTimeMs : UInt64) (stored : Bool)
  | applied (t : T) (result : Except (Option ℕ) Unit) (now : Instant) (processingTimeMs : UInt64)
      (stored : Bool)

/-- A row about a decision, with what the task knows of the message. -/
structure DecisionRow where
  msg : Message
  decision : ActionDecision
  event : AuditEventInput

/-- The decision was made without asking the detector. -/
def ActionDecision.stoppedEarly (d : ActionDecision) : Bool :=
  d.filteredOut || d.suppressReason == some .duplicate

/-- The report on a message, if the decision about it asked for one. -/
def ownReport (detector : MessageDetector) (msg : Message) (decision : ActionDecision) :
    Option DetectionReport :=
  if decision.stoppedEarly then none else some (detector msg.content)

namespace Handling

variable {F σ T : Type} [F64 F] [DecidableEq T] (texts : EventTexts) (handler : Handler)

/-- A step of a task; a task that is not at that point does nothing. -/
def step (s : Handling F σ T) : HandlerStep T → Handling F σ T
  | .message t msg now order =>
      match s.tasks t with
      | .waiting =>
          let (decision, core) := s.core.decideMessage texts.nfkc msg.ctx msg.content now order
          { s with core := core, tasks := Function.update s.tasks t (.decided msg decision) }
      | _ => s
  | .record t processingTimeMs stored =>
      match s.tasks t with
      | .decided msg decision =>
          { s with
            tasks := Function.update s.tasks t
              (if decision.action = .noop then .done else .applying msg)
            events :=
              if handler.audit && stored then
                s.events ++ [handler.decisionEvent texts s.core.lastDetection msg decision
                  processingTimeMs]
              else s.events }
      | _ => s
  | .applied t result now processingTimeMs stored =>
      match s.tasks t with
      | .applying msg =>
          match result with
          | .ok () =>
              { s with
                tasks := Function.update s.tasks t .done
                events :=
                  if handler.audit && stored then
                    s.events ++ [handler.actionSentEvent texts msg processingTimeMs]
                  else s.events }
          | .error (some status) =>
              { s with
                core := s.core.recordHttpStatus status now
                tasks := Function.update s.tasks t .done }
          | .error none => { s with tasks := Function.update s.tasks t .done }
      | _ => s

/-- The decision row that a step adds. -/
def decisionRow (s : Handling F σ T) : HandlerStep T → Option DecisionRow
  | .record t processingTimeMs stored =>
      match s.tasks t with
      | .decided msg decision =>
          if handler.audit && stored then
            some ⟨msg, decision, handler.decisionEvent texts s.core.lastDetection msg decision
              processingTimeMs⟩
          else none
      | _ => none
  | _ => none

/-- The report that a step asks the detector for. -/
def detected (s : Handling F σ T) : HandlerStep T → Option DetectionReport
  | .message t msg now order =>
      match s.tasks t with
      | .waiting => ownReport s.core.detector msg
          (s.core.decideMessage texts.nfkc msg.ctx msg.content now order).1
      | _ => none
  | _ => none

/-- No task has started. -/
def start (core : TrustedCore F σ) : Handling F σ T := ⟨core, fun _ => .waiting, []⟩

end Handling

/-! ### The last detection -/

namespace TrustedCore

variable {F σ : Type} [F64 F] {nfkc : Text → Text} {self : TrustedCore F σ} {ctx : MessageContext}
  {content : Text} {now : Instant} {order : IterOrder UInt64 Instant}

theorem settle_ne_duplicate {proposal : ActionProposal} {suspicion : SuspicionLevel}
    {mode : RuntimeMode} {detection : Option DetectionReport} :
    (self.settle ctx proposal suspicion mode now detection).1.suppressReason ≠ some .duplicate := by
  unfold settle
  split_ifs
  all_goals simp [dropped]

/-- The detector is asked about the messages that are admitted. -/
theorem outcome_stoppedEarly : (self.outcome nfkc ctx content now order).1.stoppedEarly =
    !(self.screened ctx now &&
      !(self.duplicateGuard.isDuplicateAndMark ctx.messageId now order).1) := by
  unfold ActionDecision.stoppedEarly
  rw [outcome_filteredOut]
  cases hscreen : self.screened ctx now with
  | false => rfl
  | true =>
    unfold outcome
    rw [hscreen]
    cases (self.duplicateGuard.isDuplicateAndMark ctx.messageId now order).1 with
    | true => rfl
    | false =>
      have hne := @settle_ne_duplicate _ _ _ (self.asked nfkc ctx content now order) ctx now
        (self.proposalFor nfkc content) (classifySuspiciousInput nfkc content self.suspiciousCfg)
        (self.effectiveMode now) (some (self.detector content))
      simpa using hne

/-- A decision replaces the last detection, if it asks for one. -/
theorem decideMessage_lastDetection (msg : Message) :
    (self.decideMessage nfkc msg.ctx msg.content now order).2.lastDetection =
      (ownReport self.detector msg (self.decideMessage nfkc msg.ctx msg.content now order).1).or
        self.lastDetection := by
  obtain ⟨mode, metrics, heq⟩ := self.decideMessage_eq_outcome nfkc msg.ctx msg.content now order
  have hlast := @outcome_lastDetection _ _ _ self msg.ctx now nfkc msg.content order
  rw [heq]
  unfold withBooks ownReport
  simp only
  rw [hlast, outcome_stoppedEarly]
  cases self.screened msg.ctx now &&
      !(self.duplicateGuard.isDuplicateAndMark msg.ctx.messageId now order).1 with
  | false => rfl
  | true => rfl

end TrustedCore

namespace Handling

section Rows

variable {F σ T : Type} [F64 F] [DecidableEq T] {texts : EventTexts} {handler : Handler}
  {detector : MessageDetector}

/-- The last detection is the last report that was asked for. -/
structure Knows (detector : MessageDetector) (h : List DetectionReport) (s : Handling F σ T) :
    Prop where
  detector : s.core.detector = detector
  last : s.core.lastDetection = h.getLast?

theorem getLast?_append_toList {α : Type} (h : List α) (o : Option α) :
    (h ++ o.toList).getLast? = o.or h.getLast? := by
  rw [List.getLast?_append]
  cases o <;> rfl

theorem Knows.step {h : List DetectionReport} {s : Handling F σ T} (hk : Knows detector h s)
    (x : HandlerStep T) :
    Knows detector (h ++ (s.detected texts x).toList) (s.step texts handler x) := by
  have hsame : Knows detector (h ++ (none : Option DetectionReport).toList) s := by
    rw [Option.toList_none, List.append_nil]
    exact hk
  cases x with
  | message t msg now order =>
    unfold Handling.step detected
    cases ht : s.tasks t with
    | waiting =>
      -- the only step that asks the core, under the first lock
      have hfix := TrustedCore.fixed_decideMessage texts.nfkc s.core msg.ctx msg.content now order
      have hlast := @TrustedCore.decideMessage_lastDetection _ _ _ texts.nfkc s.core now order msg
      simp only [ht]
      refine ⟨(congrArg TrustedCore.Fixed.detector hfix).trans hk.detector, ?_⟩
      rw [getLast?_append_toList, ← hk.last]
      exact hlast
    | decided | applying | done =>
      simp only [ht]
      exact hsame
  | record t processingTimeMs stored =>
    unfold Handling.step detected
    cases ht : s.tasks t with
    | decided msg decision =>
      simp only [ht]
      exact ⟨hsame.detector, hsame.last⟩
    | waiting | applying | done =>
      simp only [ht]
      exact hsame
  | applied t result now processingTimeMs stored =>
    unfold Handling.step detected
    cases ht : s.tasks t with
    | applying msg =>
      simp only [ht]
      rcases result with (_ | status) | _
      · exact ⟨hsame.detector, hsame.last⟩
      · exact ⟨hsame.detector, hsame.last⟩
      · exact ⟨hsame.detector, hsame.last⟩
    | waiting | decided | done =>
      simp only [ht]
      exact hsame

/-- The rows about decisions in a run. -/
abbrev decisionRows (texts : EventTexts) (handler : Handler) (s : Handling F σ T)
    (steps : List (HandlerStep T)) : List DecisionRow :=
  Runs.trace (step texts handler) (decisionRow texts handler) s steps

/-- The reports that a run asks the detector for. -/
abbrev reports (texts : EventTexts) (handler : Handler) (s : Handling F σ T)
    (steps : List (HandlerStep T)) : List DetectionReport :=
  Runs.trace (step texts handler) (detected texts) s steps

/-- The last detection after a run is the last report that it asked for. -/
theorem lastDetection_run {core : TrustedCore F σ} (hcore : core.lastDetection = none)
    (steps : List (HandlerStep T)) :
    (Runs.run (step texts handler) (start core) steps).core.lastDetection =
      (reports texts handler (start core : Handling F σ T) steps).getLast? := by
  have hinit : Knows core.detector [] (start core : Handling F σ T) := ⟨rfl, hcore⟩
  have hrun : Knows core.detector ([] ++ reports texts handler (start core) steps)
      (Runs.run (step texts handler) (start core) steps) :=
    Runs.trace_inv (I := Knows core.detector) (fun _ _ x hk => hk.step x) hinit steps
  exact hrun.last

/-- A row is added by the task of its message, with the last report so far. -/
theorem mem_decisionRows_iff {core : TrustedCore F σ} (hcore : core.lastDetection = none)
    {steps : List (HandlerStep T)} {row : DecisionRow} :
    row ∈ decisionRows texts handler (start core) steps ↔
      ∃ before t ms after msg decision, steps = before ++ .record t ms true :: after ∧
        handler.audit = true ∧
        (Runs.run (step texts handler) (start core) before).tasks t = .decided msg decision ∧
        row = ⟨msg, decision, handler.decisionEvent texts
          (reports texts handler (start core : Handling F σ T) before).getLast? msg decision ms⟩ := by
  rw [Runs.mem_trace_iff]
  constructor
  · rintro ⟨before, x, after, rfl, hrow⟩
    cases x with
    | message | applied => cases hrow
    | record t ms stored =>
      unfold decisionRow at hrow
      cases ht : (Runs.run (step texts handler) (start core) before).tasks t with
      | waiting | applying | done =>
        simp only [ht] at hrow
        cases hrow
      | decided msg decision =>
        simp only [ht] at hrow
        split_ifs at hrow with hstored
        obtain ⟨haudit, rfl⟩ := (Bool.and_eq_true_iff).1 hstored
        cases hrow
        rw [lastDetection_run hcore]
        exact ⟨before, t, ms, after, msg, decision, rfl, haudit, ht, rfl⟩
  · rintro ⟨before, t, ms, after, msg, decision, rfl, haudit, ht, rfl⟩
    refine ⟨before, .record t ms true, after, rfl, ?_⟩
    unfold decisionRow
    simp only [ht, haudit, Bool.and_self, if_true]
    rw [lastDetection_run hcore]

/-- The core that the tasks share at the start of `run_bot`. -/
def sharedCore (analyzer : ProposalAnalyzer σ) (analyzerState : σ) (detector : MessageDetector)
    (botConfig : BotConfig) (runtime : RuntimeProtectionConfig F) (now : Instant)
    (total remaining resetAfterSecs : ℕ) : TrustedCore F σ :=
  (TrustedCore.newWithDetector analyzer analyzerState detector botConfig runtime
    now).updateSessionBudget total remaining resetAfterSecs

/-- **When the rows describe their messages.**  In every interleaving of the tasks: every decision row
carries the fields of the report on its own message, or the defaults if the detector was not asked
about it, exactly when at every recording the last report that was asked for, by any task, has these
fields. -/
theorem audit_rows_iff (texts : EventTexts) (handler : Handler) (analyzer : ProposalAnalyzer σ)
    (analyzerState : σ) (detector : MessageDetector) (botConfig : BotConfig)
    (runtime : RuntimeProtectionConfig F) (now : Instant) (total remaining resetAfterSecs : ℕ)
    (core : TrustedCore F σ)
    (hcore : core = sharedCore analyzer analyzerState detector botConfig runtime now total remaining
      resetAfterSecs)
    (steps : List (HandlerStep T)) :
    (∀ row ∈ decisionRows texts handler (start core) steps,
        row.event.detectionFields = .of (ownReport detector row.msg row.decision)) ↔
      ∀ before t ms after msg decision, steps = before ++ .record t ms true :: after →
        handler.audit = true →
        (Runs.run (step texts handler) (start core) before).tasks t = .decided msg decision →
        DetectionFields.of (reports texts handler (start core : Handling F σ T) before).getLast? =
          .of (ownReport detector msg decision) := by
  have hnone : core.lastDetection = none := by
    rw [hcore]
    rfl
  -- the fields of a row are those of the last report when the second lock was taken
  constructor
  · intro hrows before t ms after msg decision hsteps haudit ht
    have hrow := hrows _ ((mem_decisionRows_iff hnone).2
      ⟨before, t, ms, after, msg, decision, hsteps, haudit, ht, rfl⟩)
    rw [Handler.decisionEvent_detectionFields] at hrow
    exact hrow
  · intro hlast row hrow
    obtain ⟨before, t, ms, after, msg, decision, hsteps, haudit, ht, rfl⟩ :=
      (mem_decisionRows_iff hnone).1 hrow
    rw [Handler.decisionEvent_detectionFields]
    exact hlast before t ms after msg decision hsteps haudit ht

end Rows

/-- A message that is reacted to, and then one of a bot. -/
def thenBotMessage : List (HandlerStep ℕ) :=
  [.message 0 ⟨TrustedCore.firstMessage, "oo".toList⟩ 0 (.listed _ _), .record 0 0 true,
    .message 1 ⟨⟨9, 8, 3, some 4, true⟩, "x".toList⟩ 1 (.listed _ _), .record 1 0 true]

/-- A detector with one hit in every message, and an analyzer that asks for the reaction. -/
def oneHitCore : TrustedCore ℚ Unit :=
  sharedCore (fun _ s => (.ok .reactOnce, s)) ()
    (fun _ => ⟨.morphologicalReading, "morphological_reading".toList, [], 1, 0, 1, false, 1⟩)
    canonicalBotConfig (defaultRuntimeProtectionConfig ℚ) 0 1000 1000 86400

/-- A handler with an audit store. -/
def auditingHandler : Handler := ⟨true, "0.1.0".toList, "unknown".toList, [], []⟩

/-- The row about the message of the bot shows the hit of the message before. -/
theorem thenBotMessage_row :
    ¬ ∀ row ∈ decisionRows ⟨id, id⟩ auditingHandler (start oneHitCore) thenBotMessage,
      row.event.detectionFields = .of (ownReport oneHitCore.detector row.msg row.decision) := by
  decide +kernel

theorem audit_rows_iff_thenBotMessage :
    (∀ row ∈ decisionRows ⟨id, id⟩ auditingHandler (start oneHitCore) thenBotMessage,
        row.event.detectionFields = .of (ownReport oneHitCore.detector row.msg row.decision)) ↔
      ∀ before t ms after msg decision, thenBotMessage = before ++ .record t ms true :: after →
        auditingHandler.audit = true →
        (Runs.run (step ⟨id, id⟩ auditingHandler) (start oneHitCore) before).tasks t =
          .decided msg decision →
        DetectionFields.of (reports ⟨id, id⟩ auditingHandler (start oneHitCore) before).getLast? =
          .of (ownReport oneHitCore.detector msg decision) :=
  audit_rows_iff ⟨id, id⟩ auditingHandler _ () _ canonicalBotConfig
    (defaultRuntimeProtectionConfig ℚ) 0 1000 1000 86400 oneHitCore rfl thenBotMessage

end Handling

end OoBot
