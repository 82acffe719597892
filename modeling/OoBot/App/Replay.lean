import OoBot.Security.Mediation
import OoBot.App.AnalyzeMessage

/-!
# `src/app/replay.rs`

A replay case sets up a core, lets it decide on one message and compares.  Several cases may run on
one core: then each finds what the ones before have left.

A case may override the thresholds of suspicious input.  The code does so only where both length
limits are given, and takes 256 for a repetition threshold that is not (`replay_thresholds_iff`).

* The name of a case is hashed for a message identifier that is zero: the hash is a parameter.
* The texts of the failures print the values that a `ReplayFailure` holds.
-/

namespace OoBot

/-- `ExpectedAction`. -/
inductive ExpectedAction
  | noop
  | react (emojiId : UInt64) (emojiName : Text) (animated : Bool)
  | sendMessage (content : Text)
  deriving DecidableEq

/-- `From<BotAction> for ExpectedAction`. -/
def ExpectedAction.ofBotAction : BotAction → ExpectedAction
  | .noop => .noop
  | .react emojiId emojiName animated => .react emojiId emojiName animated
  | .sendMessage content => .sendMessage content

/-- `ReplayRuntimeOverrides`. -/
structure ReplayRuntimeOverrides where
  modeOverride : Option RuntimeMode := none
  emergencyKillSwitch : Bool := false
  allowGuildIds : List UInt64 := []
  denyGuildIds : List UInt64 := []
  allowChannelIds : List UInt64 := []
  denyChannelIds : List UInt64 := []
  injectStatuses : List ℕ := []
  softCharLimit : Option ℕ := none
  hardCharLimit : Option ℕ := none
  repetitionThreshold : Option ℕ := none
  /-- Read by the callers, which build another core for a case without it. -/
  preserveState : Bool := false

/-- `ReplayCase`. -/
structure ReplayCase where
  name : Text
  content : Text
  messageId : UInt64 := 0
  authorId : UInt64 := 100
  channelId : UInt64 := 200
  guildId : Option UInt64 := none
  authorIsBot : Bool := false
  expected : ExpectedAction
  expectedMode : Option RuntimeMode := none
  expectedSuppressReason : Option SuppressReason := none
  runtime : ReplayRuntimeOverrides := {}

/-- Where a case does not come out as expected. -/
inductive ReplayFailure
  | action (name : Text) (expected actual : ExpectedAction) (decision : Option ActionDecision)
  | mode (name : Text) (expected actual : RuntimeMode)
  | suppressReason (name : Text) (expected actual : Option SuppressReason)

/-- `run_replay_case`, with the detector of `analyze_message`; `none` where the analyzer panics. -/
def runReplayCase (case : ReplayCase) (config : BotConfig) (detector : MessageDetector) :
    Option (Except ReplayFailure Unit) :=
  (analyzeMessageWithDetector case.content case.authorIsBot config detector).map fun action =>
    let actual := ExpectedAction.ofBotAction action
    if actual = case.expected then .ok ()
    else .error (.action case.name case.expected actual none)

/-- What a case reads of the world: the instants of its statuses and of its decision, and the
iteration order of the duplicate cache. -/
structure ReplayClock where
  statusAt : ℕ → Instant
  decideAt : Instant
  order : IterOrder UInt64 Instant

namespace TrustedCore

variable {F σ : Type}

/-- The statuses that a case injects, the first at the `i`-th of its instants. -/
def injectStatuses (clock : ReplayClock) : ℕ → List ℕ → TrustedCore F σ → TrustedCore F σ
  | _, [], core => core
  | i, status :: statuses, core =>
      injectStatuses clock (i + 1) statuses (core.recordHttpStatus status (clock.statusAt i))

/-- The thresholds of suspicious input for a case. -/
def overrideThresholds (runtime : ReplayRuntimeOverrides) (core : TrustedCore F σ) :
    TrustedCore F σ :=
  match runtime.softCharLimit, runtime.hardCharLimit with
  | some soft, some hard =>
      core.setSuspiciousThresholds soft hard (runtime.repetitionThreshold.getD 256)
  | _, _ => core.resetSuspiciousThresholds

/-- The core of `run_replay_case_with_core` when it is asked to decide. -/
def preparedFor (case : ReplayCase) (clock : ReplayClock) (core : TrustedCore F σ) :
    TrustedCore F σ :=
  let core := core.setModeOverride case.runtime.modeOverride
  let core := core.setEmergencyKillSwitch case.runtime.emergencyKillSwitch
  let core := core.setAccessLists case.runtime.allowGuildIds case.runtime.denyGuildIds
    case.runtime.allowChannelIds case.runtime.denyChannelIds
  let core := core.overrideThresholds case.runtime
  injectStatuses clock 0 case.runtime.injectStatuses core

end TrustedCore

/-- The message of a case; `stableId` is `stable_id_from_name`. -/
def ReplayCase.message (stableId : Text → UInt64) (case : ReplayCase) : MessageContext where
  messageId := if case.messageId = 0 then stableId case.name else case.messageId
  authorId := case.authorId
  channelId := case.channelId
  guildId := case.guildId
  authorIsBot := case.authorIsBot

/-- The comparisons at the end of `run_replay_case_with_core`. -/
def ReplayCase.compare (case : ReplayCase) (decision : ActionDecision) : Except ReplayFailure Unit :=
  let actual := ExpectedAction.ofBotAction decision.action
  if actual ≠ case.expected then
    .error (.action case.name case.expected actual (some decision))
  else
    let modes : Except ReplayFailure Unit :=
      match case.expectedMode with
      | some expectedMode =>
          if decision.mode ≠ expectedMode then
            .error (.mode case.name expectedMode decision.mode)
          else .ok ()
      | none => .ok ()
    match modes with
    | .error failure => .error failure
    | .ok () =>
        if case.expectedSuppressReason ≠ decision.suppressReason then
          .error (.suppressReason case.name case.expectedSuppressReason decision.suppressReason)
        else .ok ()

section Replay

variable {F σ : Type} [F64 F] {nfkc : Text → Text} {stableId : Text → UInt64}

/-- `run_replay_case_with_core`. -/
def runReplayCaseWithCore (nfkc : Text → Text) (stableId : Text → UInt64) (case : ReplayCase)
    (clock : ReplayClock) (core : TrustedCore F σ) : Except ReplayFailure Unit × TrustedCore F σ :=
  let core := core.preparedFor case clock
  let (decision, core) :=
    core.decideMessage nfkc (case.message stableId) case.content clock.decideAt clock.order
  (case.compare decision, core)

/-- The core after cases that run on it one after the other. -/
def replayed (nfkc : Text → Text) (stableId : Text → UInt64) (core : TrustedCore F σ)
    (cases : List (ReplayCase × ReplayClock)) : TrustedCore F σ :=
  Runs.run (fun core c => (runReplayCaseWithCore nfkc stableId c.1 c.2 core).2) core cases

/-- The limits that the thresholds go back to. -/
def configuredThresholds (runtime : RuntimeProtectionConfig F) : ℕ × ℕ × ℕ :=
  (runtime.longMessageSoftChars, runtime.longMessageHardChars, runtime.suspiciousRepetitionThreshold)

/-! ### What no case changes -/

section Frame

variable {case : ReplayCase} {clock : ReplayClock} {core : TrustedCore F σ}

omit [F64 F] in
theorem injectStatuses_frame (statuses : List ℕ) (i : ℕ) (core : TrustedCore F σ) :
    (TrustedCore.injectStatuses clock i statuses core).suspiciousCfg = core.suspiciousCfg ∧
      (TrustedCore.injectStatuses clock i statuses core).runtime = core.runtime := by
  induction statuses generalizing i core with
  | nil => exact ⟨rfl, rfl⟩
  | cons status statuses ih => exact ih (i + 1) (core.recordHttpStatus status (clock.statusAt i))

omit [F64 F] in
theorem overrideThresholds_runtime (runtime : ReplayRuntimeOverrides) (core : TrustedCore F σ) :
    (core.overrideThresholds runtime).runtime = core.runtime := by
  unfold TrustedCore.overrideThresholds
  split <;> rfl

omit [F64 F] in
/-- Setting up a case leaves the configured limits as they are. -/
theorem configured_preparedFor :
    configuredThresholds (core.preparedFor case clock).runtime =
      configuredThresholds core.runtime := by
  unfold TrustedCore.preparedFor
  simp only
  rw [(injectStatuses_frame _ _ _).2, overrideThresholds_runtime]
  rfl

/-- Running a case leaves the configured limits as they are. -/
theorem configured_runReplayCase :
    configuredThresholds (runReplayCaseWithCore nfkc stableId case clock core).2.runtime =
      configuredThresholds core.runtime := by
  unfold runReplayCaseWithCore
  simp only
  rw [TrustedCore.decideMessage_runtime, configured_preparedFor]

/-- Running any cases leaves the configured limits as they are. -/
theorem configured_replayed (core : TrustedCore F σ) (cases : List (ReplayCase × ReplayClock)) :
    configuredThresholds (replayed nfkc stableId core cases).runtime =
      configuredThresholds core.runtime :=
  Runs.run_eq (f := fun core : TrustedCore F σ => configuredThresholds core.runtime)
    (fun _ _ => configured_runReplayCase) core cases

end Frame

/-! ### The thresholds of a case -/

/-- The configured thresholds, with those fields replaced that the case gives. -/
def wantedThresholds (runtime : RuntimeProtectionConfig F) (overrides : ReplayRuntimeOverrides) :
    SuspiciousInputConfig :=
  ⟨overrides.softCharLimit.getD runtime.longMessageSoftChars,
    overrides.hardCharLimit.getD runtime.longMessageHardChars,
    max (overrides.repetitionThreshold.getD runtime.suspiciousRepetitionThreshold) 1⟩

/-- The overrides of a case take effect one by one. -/
def OverridesTake (runtime : RuntimeProtectionConfig F) (overrides : ReplayRuntimeOverrides) :
    Prop :=
  if overrides.softCharLimit.isSome ∧ overrides.hardCharLimit.isSome then
    -- a repetition threshold that is missing counts as 256
    overrides.repetitionThreshold = none → max runtime.suspiciousRepetitionThreshold 1 = 256
  else
    -- nothing is overridden, so what is given must be what is configured
    (∀ soft, overrides.softCharLimit = some soft → soft = runtime.longMessageSoftChars) ∧
      (∀ hard, overrides.hardCharLimit = some hard → hard = runtime.longMessageHardChars) ∧
      ∀ repetition, overrides.repetitionThreshold = some repetition →
        max repetition 1 = max runtime.suspiciousRepetitionThreshold 1

omit [F64 F] in
/-- The thresholds that the overrides set, from those that are configured. -/
theorem overrideThresholds_suspiciousCfg (overrides : ReplayRuntimeOverrides)
    (core : TrustedCore F σ) :
    (core.overrideThresholds overrides).suspiciousCfg =
      match overrides.softCharLimit, overrides.hardCharLimit with
      | some soft, some hard => ⟨soft, hard, max (overrides.repetitionThreshold.getD 256) 1⟩
      | _, _ => ⟨core.runtime.longMessageSoftChars, core.runtime.longMessageHardChars,
          max core.runtime.suspiciousRepetitionThreshold 1⟩ := by
  unfold TrustedCore.overrideThresholds
  cases overrides.softCharLimit <;> cases overrides.hardCharLimit <;> rfl

omit [F64 F] in
/-- The thresholds that a case sets. -/
theorem preparedFor_suspiciousCfg (case : ReplayCase) (clock : ReplayClock) (core : TrustedCore F σ) :
    (core.preparedFor case clock).suspiciousCfg =
      match case.runtime.softCharLimit, case.runtime.hardCharLimit with
      | some soft, some hard => ⟨soft, hard, max (case.runtime.repetitionThreshold.getD 256) 1⟩
      | _, _ => ⟨core.runtime.longMessageSoftChars, core.runtime.longMessageHardChars,
          max core.runtime.suspiciousRepetitionThreshold 1⟩ := by
  unfold TrustedCore.preparedFor
  simp only
  rw [(injectStatuses_frame _ _ _).1, overrideThresholds_suspiciousCfg]
  rfl

omit [F64 F] in
/-- When one case gets the thresholds it asks for. -/
theorem prepared_wanted_iff {case : ReplayCase} {clock : ReplayClock} {core : TrustedCore F σ} :
    (core.preparedFor case clock).suspiciousCfg = wantedThresholds core.runtime case.runtime ↔
      OverridesTake core.runtime case.runtime := by
  rw [preparedFor_suspiciousCfg]
  unfold wantedThresholds OverridesTake
  cases case.runtime.softCharLimit with
  | none =>
    cases case.runtime.repetitionThreshold <;> cases case.runtime.hardCharLimit <;>
      simp [SuspiciousInputConfig.mk.injEq, eq_comm]
  | some soft =>
    cases case.runtime.hardCharLimit with
    | none =>
      cases case.runtime.repetitionThreshold <;>
        simp [SuspiciousInputConfig.mk.injEq, eq_comm]
    | some hard =>
      cases case.runtime.repetitionThreshold <;>
        simp [SuspiciousInputConfig.mk.injEq, eq_comm]

/-- **When the overrides of a case take effect.**  After any cases on one core: the thresholds at the
decision of a further case are the configured ones with exactly the given fields replaced, whatever
came before, if and only if both length limits are given, and the repetition threshold with them unless
256 is configured; or else what is given repeats what is configured. -/
theorem replay_thresholds_iff (nfkc : Text → Text) (stableId : Text → UInt64)
    (core : TrustedCore F σ) (before : List (ReplayCase × ReplayClock)) (case : ReplayCase)
    (clock : ReplayClock) :
    ((replayed nfkc stableId core before).preparedFor case clock).suspiciousCfg =
        wantedThresholds core.runtime case.runtime ↔
      OverridesTake core.runtime case.runtime := by
  have hconf := @configured_replayed _ _ _ nfkc stableId core before
  unfold configuredThresholds at hconf
  simp only [Prod.mk.injEq] at hconf
  obtain ⟨hsoft, hhard, hrep⟩ := hconf
  have hwanted : wantedThresholds (replayed nfkc stableId core before).runtime case.runtime =
      wantedThresholds core.runtime case.runtime := by
    unfold wantedThresholds
    rw [hsoft, hhard, hrep]
  have htake : OverridesTake (replayed nfkc stableId core before).runtime case.runtime ↔
      OverridesTake core.runtime case.runtime := by
    unfold OverridesTake
    rw [hsoft, hhard, hrep]
  rw [← hwanted, ← htake]
  exact prepared_wanted_iff

end Replay

/-- A case that lowers the soft limit only. -/
def softOnlyCase : ReplayCase where
  name := "soft_only".toList
  content := "oooo".toList
  expected := .noop
  runtime := { softCharLimit := some 3 }

/-- The soft limit that the case gives is not in force when the core decides. -/
theorem soft_limit_ignored :
    ((replayed id (fun _ => 0) (TrustedCore.newWithDetector (fun _ s => (.ok .noop, s)) ()
        canonicalDetector.detect canonicalBotConfig (defaultRuntimeProtectionConfig ℚ) 0)
        []).preparedFor softOnlyCase ⟨fun _ => 0, 0, .listed _ _⟩).suspiciousCfg.softCharLimit = 2000 ∧
      (wantedThresholds (defaultRuntimeProtectionConfig ℚ) softOnlyCase.runtime).softCharLimit = 3 := by
  constructor <;> rfl

end OoBot
