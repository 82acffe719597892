import OoBot.Security.Breaker
import OoBot.Security.Duplicates
import OoBot.Security.Spikes

/-!
# A core that forgets nothing

The core keeps little of what it has seen: the failures within a window, the last marks of some
identifiers, one instant for each cooldown, a number of tokens.  A `Ledger` keeps everything.  It writes
down what happens, in the order in which it happens, strikes nothing out, and judges a message by what
is written.

* `Ledger.judge` is the judgement, `Ledger.Step` a step with what it shows.
* `Ledger.Records` says that a core is what the ledger says it is.
* `core_refines_ledger`: in every run at non-decreasing instants, the core decides as the ledger judges.

What the ledger does not settle is whether a message is known: a full guard forgets, and which of two
marks of one instant it forgets is up to the iteration order of a hash map.  The marks bound the answer
(`DuplicateGuard.Exact`).
-/

namespace OoBot

/-! ### What is written -/

/-- What was written down about a core: its settings as they are now, and what happened. -/
structure Ledger (F σ : Type) where
  analyzer : ProposalAnalyzer σ
  detector : MessageDetector
  botConfig : BotConfig
  opened : Instant
  runtime : RuntimeProtectionConfig F
  suspiciousCfg : SuspiciousInputConfig
  sessionBudget : SessionBudget
  analyzerState : σ
  /-- The answers to requests. -/
  statuses : List HttpCircuitBreaker.StatusCall := []
  /-- The failures of the analyzer. -/
  failures : List Instant := []
  /-- The messages that the first guards let through. -/
  seen : List Mark := []
  /-- The instants at which a token was asked for. -/
  requests : List Instant := []
  /-- The guilds of the messages that no cooldown but the global one could still stop. -/
  guilds : List Mark := []
  /-- The messages that were acted on. -/
  acted : List (MessageContext × Instant) := []

/-- The settings that operators and events of the gateway change. -/
structure Orders where
  modeOverride : Option RuntimeMode
  emergencyKillSwitch : Bool
  allowGuildIds : List UInt64
  denyGuildIds : List UInt64
  allowChannelIds : List UInt64
  denyChannelIds : List UInt64
  suspiciousCfg : SuspiciousInputConfig
  sessionBudget : SessionBudget

/-- A mark of the key that is younger than `ttl`. -/
def Running (marks : List Mark) (ttl : Duration) (key : UInt64) (now : Instant) : Prop :=
  ∃ u, (key, u) ∈ marks ∧ now < u + ttl

/-- Neither denied, nor left out where only some are allowed. -/
def Welcome (deny allow : List UInt64) (id : UInt64) : Prop :=
  id ∉ deny ∧ (allow = [] ∨ id ∈ allow)

namespace Ledger

variable {F σ : Type}

/-- The empty ledger of a new core. -/
def new (analyzer : ProposalAnalyzer σ) (analyzerState : σ) (detector : MessageDetector)
    (botConfig : BotConfig) (runtime : RuntimeProtectionConfig F) (now : Instant) : Ledger F σ where
  analyzer := analyzer
  detector := detector
  botConfig := botConfig
  opened := now
  runtime := runtime
  suspiciousCfg := ⟨runtime.longMessageSoftChars, runtime.longMessageHardChars,
    runtime.suspiciousRepetitionThreshold⟩
  sessionBudget := SessionBudget.new 1000 1000 (24 * 60 * 60) runtime.sessionBudgetLowWatermark
  analyzerState := analyzerState

/-! ### What can be read off -/

/-- Some refused request opened the breaker, and it is not closed again. -/
def Tripped (l : Ledger F σ) (now : Instant) : Prop :=
  HttpCircuitBreaker.Tripped (fromMillis l.runtime.breakerWindowMs) l.runtime.breakerThreshold
    (fromMillis l.runtime.breakerOpenMs) l.statuses now

/-- As many failures of the analyzer as the threshold lie within the window. -/
def Spiking (l : Ledger F σ) (now : Instant) : Prop :=
  l.runtime.sandboxFailureThreshold ≤ (l.failures.filter fun t =>
    durationSince now t ≤ fromMillis l.runtime.sandboxFailureWindowMs).length

/-- What the marks allow the guard to answer. -/
def MayAnswer (l : Ledger F σ) (m : UInt64) (now : Instant) (dup : Bool) : Prop :=
  DuplicateGuard.Exact (fromMillis l.runtime.duplicateTtlMs) l.runtime.duplicateCacheCap l.seen m now
    dup

/-- The messages that were acted on, by a key. -/
def actedBy (l : Ledger F σ) (key : MessageContext → UInt64) : List Mark :=
  l.acted.map fun e => (key e.1, e.2)

/-- No cooldown of the message's own is running. -/
structure Rested (l : Ledger F σ) (ctx : MessageContext) (now : Instant) : Prop where
  user : ¬ Running (l.actedBy (·.authorId)) (fromMillis l.runtime.perUserCooldownMs) ctx.authorId now
  channel : ¬ Running (l.actedBy (·.channelId)) (fromMillis l.runtime.perChannelCooldownMs)
    ctx.channelId now
  guild : ∀ g, ctx.guildId = some g →
    ¬ Running l.guilds (fromMillis l.runtime.perGuildCooldownMs) g now

/-- No action at all is so young that the global cooldown runs. -/
def Calm (l : Ledger F σ) (now : Instant) : Prop :=
  ¬ Running (l.actedBy fun _ => 0) (fromMillis l.runtime.globalCooldownMs) 0 now

/-- The bucket, after every token that was asked for. -/
def bucket [F64 F] (l : Ledger F σ) : TokenBucket F :=
  l.requests.foldl (fun b t => (b.tryTake 1 t).2)
    (TokenBucket.new l.runtime.globalRateBurst l.runtime.globalRatePerSec l.opened)

/-- There is a token left. -/
def Affords [F64 F] (l : Ledger F σ) (now : Instant) : Prop := (l.bucket.tryTake 1 now).1 = true

open Classical in
/-- The mode: the operator's word first, then what is written. -/
noncomputable def mode (l : Ledger F σ) (now : Instant) : RuntimeMode :=
  if l.runtime.emergencyKillSwitch then .fullDisable
  else l.runtime.modeOverride.getD
    (if l.sessionBudget.isLow then .reactOnly
    else if l.Tripped now then .observeOnly
    else if l.Spiking now then .auditOnly
    else .normal)

/-! ### Judgements -/

/-- The guild of a message is written down. -/
def markGuild (l : Ledger F σ) (ctx : MessageContext) (now : Instant) : Ledger F σ :=
  match ctx.guildId with
  | some g => { l with guilds := l.guilds ++ [(g, now)] }
  | none => l

/-- A token is asked for. -/
def ask (l : Ledger F σ) (now : Instant) : Ledger F σ := { l with requests := l.requests ++ [now] }

open Classical in
/-- The first objection to a message, before it is looked up. -/
noncomputable def objection (l : Ledger F σ) (ctx : MessageContext) (now : Instant) :
    Option SuppressReason :=
  if l.mode now = .fullDisable then some .modeRestricted
  else if ctx.authorIsBot then some .selfTrigger
  else if ∃ g, ctx.guildId = some g ∧ ¬ Welcome l.runtime.denyGuildIds l.runtime.allowGuildIds g then
    some .guildDenied
  else if ¬ Welcome l.runtime.denyChannelIds l.runtime.allowChannelIds ctx.channelId then
    some .channelDenied
  else none

/-- Why a proposal comes to nothing; a proposal to do nothing needs no reason. -/
def idleReason (mode : RuntimeMode) (proposal : ActionProposal) : Option SuppressReason :=
  if mode ≠ .normal ∧ isOutboundProposal proposal then some .modeRestricted
  else if proposal = .suspiciousInput then some .suspicious
  else if isOutboundProposal proposal then some .invalidAction
  else none

open Classical in
/-- The judgement on a compiled action, with what is written down because of it. -/
noncomputable def limit [F64 F] (l : Ledger F σ) (ctx : MessageContext) (now : Instant) :
    Option SuppressReason × Ledger F σ :=
  if l.Tripped now then (some .circuitOpen, l)
  else if ¬ l.Affords now then (some .rateLimit, l.ask now)
  else if l.runtime.maxActionsPerMessage = 0 then (some .invalidAction, l.ask now)
  else if ¬ l.Rested ctx now then (some .cooldown, l.ask now)
  else if ¬ l.Calm now then (some .cooldown, (l.ask now).markGuild ctx now)
  else (none, { (l.ask now).markGuild ctx now with acted := l.acted ++ [(ctx, now)] })

/-- The answer of the analyzer is written down. -/
def consult (nfkc : Text → Text) (l : Ledger F σ) (content : Text) (now : Instant) :
    ActionProposal × Ledger F σ :=
  if classifySuspiciousInput nfkc content l.suspiciousCfg = .hard then (.suspiciousInput, l)
  else
    let answer := l.analyzer (TrustedCore.request content (l.detector content)) l.analyzerState
    match answer.1 with
    | .ok proposal => (proposal, { l with analyzerState := answer.2 })
    | .error _ => (.defer, { l with analyzerState := answer.2, failures := l.failures ++ [now] })

open Classical in
/-- **The judgement on a message**, if the guard answers `dup`. -/
noncomputable def judge [F64 F] (nfkc : Text → Text) (l : Ledger F σ) (ctx : MessageContext)
    (content : Text) (now : Instant) (dup : Bool) : ActionDecision × Ledger F σ :=
  match l.objection ctx now with
  | some reason => (dropped (l.mode now) .noop .none reason, l)
  | none =>
      let written := { l with seen := l.seen ++ [(ctx.messageId, now)] }
      if dup then (dropped (l.mode now) .noop .none .duplicate, written)
      else
        let suspicion := classifySuspiciousInput nfkc content l.suspiciousCfg
        let consulted := written.consult nfkc content now
        let action := compileResponseFromDetection consulted.1 (l.mode now) suspicion l.botConfig
          l.runtime.maxSendChars l.botConfig.maxCountCap (some (l.detector content))
        if action = .noop then
          (⟨.noop, l.mode now, consulted.1, suspicion, idleReason (l.mode now) consulted.1⟩,
            consulted.2)
        else
          let limited := consulted.2.limit ctx now
          (⟨if limited.1 = none then action else .noop, l.mode now, consulted.1, suspicion,
            limited.1⟩, limited.2)

/-- What is set of the settings now. -/
def orders (l : Ledger F σ) : Orders :=
  ⟨l.runtime.modeOverride, l.runtime.emergencyKillSwitch, l.runtime.allowGuildIds,
    l.runtime.denyGuildIds, l.runtime.allowChannelIds, l.runtime.denyChannelIds, l.suspiciousCfg,
    l.sessionBudget⟩

/-- The settings are changed. -/
def obey (l : Ledger F σ) (o : Orders) : Ledger F σ :=
  { l with
    runtime := { l.runtime with
      modeOverride := o.modeOverride
      emergencyKillSwitch := o.emergencyKillSwitch
      allowGuildIds := o.allowGuildIds
      denyGuildIds := o.denyGuildIds
      allowChannelIds := o.allowChannelIds
      denyChannelIds := o.denyChannelIds }
    suspiciousCfg := o.suspiciousCfg
    sessionBudget := o.sessionBudget }

/-- What other operations write down. -/
def note (l : Ledger F σ) : TrustedCore.Op → Ledger F σ
  | .recordHttpStatus status now => { l with statuses := l.statuses ++ [(status, now)] }
  | .setModeOverride mode => { l with runtime := { l.runtime with modeOverride := mode } }
  | .setEmergencyKillSwitch enabled =>
      { l with runtime := { l.runtime with emergencyKillSwitch := enabled } }
  | .setAccessLists ag dg ac dc =>
      { l with runtime := { l.runtime with
          allowGuildIds := ag, denyGuildIds := dg, allowChannelIds := ac, denyChannelIds := dc } }
  | .setSuspiciousThresholds soft hard rep => { l with suspiciousCfg := ⟨soft, hard, max rep 1⟩ }
  | .resetSuspiciousThresholds =>
      { l with suspiciousCfg := ⟨l.runtime.longMessageSoftChars, l.runtime.longMessageHardChars,
          max l.runtime.suspiciousRepetitionThreshold 1⟩ }
  | .updateSessionBudget total remaining reset =>
      { l with sessionBudget :=
          SessionBudget.new total remaining reset l.runtime.sessionBudgetLowWatermark }
  | _ => l

/-- A step of the ledger, with the decision that it shows. -/
inductive Step [F64 F] (nfkc : Text → Text) (l : Ledger F σ) :
    TrustedCore.Op → Option ActionDecision → Ledger F σ → Prop
  | judged {ctx : MessageContext} {content : Text} {now : Instant}
      {order : IterOrder UInt64 Instant} (dup : Bool) (may : l.MayAnswer ctx.messageId now dup) :
      Step nfkc l (.decideMessage ctx content now order) (some (l.judge nfkc ctx content now dup).1)
        (l.judge nfkc ctx content now dup).2
  | noted {op : TrustedCore.Op} (other : ∀ ctx content now order, op ≠ .decideMessage ctx content now order) :
      Step nfkc l op none (l.note op)

end Ledger

/-! ### Cooldowns and their marks -/

namespace CooldownMap

/-- From `t` on, the map says of a key what the marks say. -/
structure Follows (marks : List Mark) (ttl : Duration) (t : Instant) (m : CooldownMap) : Prop where
  ttl_eq : m.ttl = ttl
  past : ∀ mark ∈ marks, mark.2 ≤ t
  cooling : ∀ key now, t ≤ now → (m.isCooling key now = true ↔ Running marks ttl key now)

variable {marks : List Mark} {ttl : Duration} {t now : Instant} {m : CooldownMap} {key : UInt64}

theorem isCooling_mark (m : CooldownMap) (key key' : UInt64) (now later : Instant) :
    (m.mark key now).isCooling key' later =
      if key' = key then decide (later < now + m.ttl) else m.isCooling key' later := by
  unfold isCooling CooldownMap.mark
  simp only [KeyMap.get?_insert]
  split_ifs <;> rfl

theorem follows_new : Follows [] ttl t (new ttl) where
  ttl_eq := rfl
  past := by simp
  cooling key now _ := by
    constructor
    · intro h
      cases h
    · rintro ⟨u, hu, -⟩
      cases hu

theorem Follows.mono (h : Follows marks ttl t m) (hle : t ≤ now) : Follows marks ttl now m where
  ttl_eq := h.ttl_eq
  past mark hmark := (h.past mark hmark).trans hle
  cooling key later hlater := h.cooling key later (hle.trans hlater)

/-- The last mark of a key runs the longest. -/
theorem Follows.mark (h : Follows marks ttl now m) :
    Follows (marks ++ [(key, now)]) ttl now (m.mark key now) where
  ttl_eq := h.ttl_eq
  past mark hmark := by
    rcases List.mem_append.1 hmark with hmark | hmark
    · exact h.past mark hmark
    · rw [List.mem_singleton.1 hmark]
  cooling key' later hlater := by
    rw [isCooling_mark]
    by_cases hkey : key' = key
    · subst hkey
      rw [if_pos rfl, decide_eq_true_eq, h.ttl_eq]
      constructor
      · intro hlt
        exact ⟨now, by simp, hlt⟩
      · rintro ⟨u, hu, hlt⟩
        rcases List.mem_append.1 hu with hu | hu
        · exact lt_of_lt_of_le hlt (Nat.add_le_add_right (h.past _ hu) ttl)
        · cases List.mem_singleton.1 hu
          exact hlt
    · rw [if_neg hkey, h.cooling key' later hlater]
      unfold Running
      simp [hkey]

theorem Follows.not_cooling (h : Follows marks ttl t m) (hle : t ≤ now) :
    m.isCooling key now = false ↔ ¬ Running marks ttl key now := by
  rw [← h.cooling key now hle, Bool.not_eq_true]

end CooldownMap

namespace TrustedCore

variable {F σ : Type}

/-- What is set of the settings now. -/
def orders (self : TrustedCore F σ) : Orders :=
  ⟨self.runtime.modeOverride, self.runtime.emergencyKillSwitch, self.runtime.allowGuildIds,
    self.runtime.denyGuildIds, self.runtime.allowChannelIds, self.runtime.denyChannelIds,
    self.suspiciousCfg, self.sessionBudget⟩

/-- The settings are changed. -/
def obey (self : TrustedCore F σ) (o : Orders) : TrustedCore F σ :=
  { self with
    runtime := { self.runtime with
      modeOverride := o.modeOverride
      emergencyKillSwitch := o.emergencyKillSwitch
      allowGuildIds := o.allowGuildIds
      denyGuildIds := o.denyGuildIds
      allowChannelIds := o.allowChannelIds
      denyChannelIds := o.denyChannelIds }
    suspiciousCfg := o.suspiciousCfg
    sessionBudget := o.sessionBudget }

/-- The guild of a message is marked. -/
def markGuild (self : TrustedCore F σ) (ctx : MessageContext) (now : Instant) : TrustedCore F σ :=
  match ctx.guildId with
  | some g => { self with guildCooldown := self.guildCooldown.mark g now }
  | none => self

theorem markGuild_frame (self : TrustedCore F σ) (ctx : MessageContext) (now : Instant) :
    (self.markGuild ctx now).userCooldown = self.userCooldown ∧
      (self.markGuild ctx now).channelCooldown = self.channelCooldown ∧
      (self.markGuild ctx now).globalCooldown = self.globalCooldown := by
  unfold markGuild
  cases ctx.guildId <;> exact ⟨rfl, rfl, rfl⟩

/-- No cooldown of the message's own is running. -/
structure OwnRested (core : TrustedCore F σ) (ctx : MessageContext) (now : Instant) : Prop where
  user : core.userCooldown.isCooling ctx.authorId now = false
  channel : core.channelCooldown.isCooling ctx.channelId now = false
  guild : ∀ g, ctx.guildId = some g → core.guildCooldown.isCooling g now = false

/-- The cooldown step: the guild is marked once the message's own cooldowns are over, the rest once the
global one is. -/
theorem cooldownAllows_cases (self : TrustedCore F σ) (ctx : MessageContext) (now : Instant) :
    (¬ self.OwnRested ctx now ∧ self.cooldownAllows ctx now = (false, self)) ∨
      (self.OwnRested ctx now ∧ self.globalCooldown.isCooling 0 now = true ∧
        self.cooldownAllows ctx now = (false, self.markGuild ctx now)) ∨
      (self.OwnRested ctx now ∧ self.globalCooldown.isCooling 0 now = false ∧
        self.cooldownAllows ctx now = (true, { self.markGuild ctx now with
          userCooldown := self.userCooldown.mark ctx.authorId now
          channelCooldown := self.channelCooldown.mark ctx.channelId now
          globalCooldown := self.globalCooldown.mark 0 now })) := by
  unfold cooldownAllows markGuild
  cases hu : self.userCooldown.isCooling ctx.authorId now with
  | true => exact Or.inl ⟨fun h => by simp [h.user] at hu, by simp⟩
  | false =>
    cases hc : self.channelCooldown.isCooling ctx.channelId now with
    | true => exact Or.inl ⟨fun h => by simp [h.channel] at hc, by simp⟩
    | false =>
      cases hid : ctx.guildId with
      | none =>
        have hrest : self.OwnRested ctx now := ⟨hu, hc, fun g h => by simp [hid] at h⟩
        cases hg : self.globalCooldown.isCooling 0 now with
        | true => exact Or.inr (Or.inl ⟨hrest, rfl, by simp [hg]⟩)
        | false => exact Or.inr (Or.inr ⟨hrest, rfl, by simp [hg]⟩)
      | some g =>
        cases hgc : self.guildCooldown.isCooling g now with
        | true => exact Or.inl ⟨fun h => by simp [h.guild g hid] at hgc, by simp [hgc]⟩
        | false =>
          have hrest : self.OwnRested ctx now := by
            refine ⟨hu, hc, fun g' h => ?_⟩
            rw [hid] at h
            cases h
            exact hgc
          cases hg : self.globalCooldown.isCooling 0 now with
          | true => exact Or.inr (Or.inl ⟨hrest, rfl, by simp [hg, hgc]⟩)
          | false => exact Or.inr (Or.inr ⟨hrest, rfl, by simp [hg, hgc]⟩)

end TrustedCore

/-! ### What the core is, by the ledger -/

namespace Ledger

open TrustedCore

variable {F σ : Type} [F64 F]

/-- At `t`, the core is what the ledger says it is. -/
structure Records (t : Instant) (l : Ledger F σ) (core : TrustedCore F σ) : Prop where
  analyzer : core.analyzer = l.analyzer
  detector : core.detector = l.detector
  botConfig : core.botConfig = l.botConfig
  runtime : core.runtime = l.runtime
  suspiciousCfg : core.suspiciousCfg = l.suspiciousCfg
  sessionBudget : core.sessionBudget = l.sessionBudget
  analyzerState : core.analyzerState = l.analyzerState
  breaker : HttpCircuitBreaker.Tracks (fromMillis l.runtime.breakerWindowMs)
    l.runtime.breakerThreshold (fromMillis l.runtime.breakerOpenMs) l.statuses core.breaker
  statuses_sorted : (l.statuses.map Prod.snd).Pairwise (· ≤ ·)
  statuses_past : ∀ call ∈ l.statuses, call.2 ≤ t
  failures : RemembersFailures l.runtime t l.failures core
  guard : DuplicateGuard.Tracks (fromMillis l.runtime.duplicateTtlMs) l.runtime.duplicateCacheCap
    l.seen core.duplicateGuard
  seen_past : ∀ mark ∈ l.seen, mark.2 ≤ t
  bucket : core.outboundBucket = l.bucket
  user : core.userCooldown.Follows (l.actedBy (·.authorId)) (fromMillis l.runtime.perUserCooldownMs) t
  channel : core.channelCooldown.Follows (l.actedBy (·.channelId))
    (fromMillis l.runtime.perChannelCooldownMs) t
  guild : core.guildCooldown.Follows l.guilds (fromMillis l.runtime.perGuildCooldownMs) t
  global : core.globalCooldown.Follows (l.actedBy fun _ => 0) (fromMillis l.runtime.globalCooldownMs) t

theorem records_new (analyzer : ProposalAnalyzer σ) (analyzerState : σ) (detector : MessageDetector)
    (botConfig : BotConfig) (runtime : RuntimeProtectionConfig F) (now : Instant) :
    Records now (Ledger.new analyzer analyzerState detector botConfig runtime now)
      (newWithDetector analyzer analyzerState detector botConfig runtime now) where
  analyzer := rfl
  detector := rfl
  botConfig := rfl
  runtime := rfl
  suspiciousCfg := rfl
  sessionBudget := rfl
  analyzerState := rfl
  breaker := HttpCircuitBreaker.tracks_new
  statuses_sorted := List.Pairwise.nil
  statuses_past _ h := by cases h
  failures := ⟨rfl, rfl, List.Pairwise.nil, by rintro t ⟨⟩, fun _ _ => rfl⟩
  guard := DuplicateGuard.tracks_new
  seen_past _ h := by cases h
  bucket := rfl
  user := CooldownMap.follows_new
  channel := CooldownMap.follows_new
  guild := CooldownMap.follows_new
  global := CooldownMap.follows_new

section Records

variable {t now : Instant} {l : Ledger F σ} {core : TrustedCore F σ} {ctx : MessageContext}

theorem Records.mono (h : Records t l core) (hle : t ≤ now) : Records now l core :=
  { h with
    statuses_past := fun call hcall => (h.statuses_past call hcall).trans hle
    failures := h.failures.mono hle rfl rfl rfl
    seen_past := fun mark hmark => (h.seen_past mark hmark).trans hle
    user := h.user.mono hle
    channel := h.channel.mono hle
    guild := h.guild.mono hle
    global := h.global.mono hle }

/-- The books are not in the ledger. -/
theorem Records.withBooks (h : Records t l core) (mode : ModeState) (metrics : RuntimeMetrics) :
    Records t l (core.withBooks mode metrics) :=
  ⟨h.analyzer, h.detector, h.botConfig, h.runtime, h.suspiciousCfg, h.sessionBudget,
    h.analyzerState, h.breaker, h.statuses_sorted, h.statuses_past,
    h.failures.mono (le_refl t) rfl rfl rfl, h.guard, h.seen_past, h.bucket, h.user, h.channel,
    h.guild, h.global⟩

theorem Records.isOpen_iff (h : Records t l core) (hle : t ≤ now) :
    core.breaker.isOpen now = true ↔ l.Tripped now :=
  h.breaker.isOpen_iff now fun call hcall => (h.statuses_past call hcall).trans hle

theorem Records.spiking_iff (h : Records t l core) (hle : t ≤ now) :
    core.Spiking now ↔ l.Spiking now :=
  h.failures.spiking_iff hle

/-- The mode that the core arrives at is the one that the ledger reads off. -/
theorem Records.mode_eq (h : Records t l core) (hle : t ≤ now) :
    core.effectiveMode now = l.mode now := by
  unfold Ledger.mode
  rw [← h.runtime, ← h.sessionBudget]
  cases hmode : core.runtime.modeOverride with
  | none =>
    rw [effectiveMode_eq core hmode now, Option.getD_none]
    have htrip := h.isOpen_iff hle
    have hspike := h.spiking_iff hle
    congr 3
    · exact propext htrip
    · congr 1
      exact propext hspike
  | some mode =>
    have h' : (core.trimSandboxFailures now).runtime.modeOverride = some mode := hmode
    unfold effectiveMode targetMode
    simp only [h', Option.getD_some]
    split_ifs <;> first | rfl | contradiction

omit [F64 F] in
theorem allowGuild_iff (core : TrustedCore F σ) (guildId : Option UInt64) :
    core.allowGuild guildId = true ↔
      ¬ ∃ g, guildId = some g ∧ ¬ Welcome core.runtime.denyGuildIds core.runtime.allowGuildIds g := by
  cases guildId with
  | none => exact iff_of_true rfl (by simp)
  | some g =>
    have hallowed := allowed_iff core.runtime.denyGuildIds core.runtime.allowGuildIds g
    constructor
    · rintro hg ⟨g', hg', hnot⟩
      cases hg'
      exact hnot (hallowed.1 hg)
    · intro hnot
      exact hallowed.2 (by_contra fun hg => hnot ⟨g, rfl, hg⟩)

/-- The first guards object as the ledger does. -/
theorem Records.objection_eq (h : Records t l core) (hle : t ≤ now) :
    l.objection ctx now =
      if core.screened ctx now then none else some (core.screenReason ctx now) := by
  have hguild := allowGuild_iff core ctx.guildId
  have hchannel : core.allowChannel ctx.channelId = true ↔
      Welcome core.runtime.denyChannelIds core.runtime.allowChannelIds ctx.channelId :=
    allowed_iff _ _ _
  unfold objection screened screenReason
  rw [← h.mode_eq hle, ← h.runtime]
  by_cases hmode : core.effectiveMode now = .fullDisable
  · simp [hmode]
  by_cases hauthor : ctx.authorIsBot = true
  · simp [hmode, hauthor]
  cases hg : core.allowGuild ctx.guildId with
  | false =>
    rw [hg] at hguild
    have hdenied := not_not.1 (mt hguild.2 (by simp))
    simp [hmode, hauthor, hdenied]
  | true =>
    rw [if_neg hmode, if_neg hauthor, if_neg (hguild.1 hg)]
    by_cases hwelcome : Welcome core.runtime.denyChannelIds core.runtime.allowChannelIds ctx.channelId
    · simp [hmode, hauthor, hwelcome, hchannel.2 hwelcome]
    · simp [hmode, hauthor, hwelcome, mt hchannel.1 hwelcome]

/-! ### Writing -/

/-- What was dropped before may be appended to. -/
theorem trimFront_kept_append {window : Duration} {kept all : List Instant}
    (h : ∀ later, t ≤ later → trimFront window later kept = trimFront window later all)
    (hle : t ≤ now) (own : List Instant) {later : Instant} (hlater : now ≤ later) :
    trimFront window later (trimFront window now (kept ++ own)) =
      trimFront window later (all ++ own) := by
  rw [trimFront_trimFront hlater, ← trimFront_append_trimFront (le_refl later),
    h later (hle.trans hlater), trimFront_append_trimFront (le_refl later)]

/-- A state that has dropped old failures, after one of its own or none. -/
theorem Records.failures_append (h : Records t l core) (hle : t ≤ now) {own : List Instant}
    (hown : own = [] ∨ own = [now]) {next : TrustedCore F σ} (hruntime : next.runtime = core.runtime)
    (hfailures : next.sandboxFailures = trimFront (fromMillis core.runtime.sandboxFailureWindowMs) now
      (core.sandboxFailures ++ own)) :
    RemembersFailures l.runtime now (l.failures ++ own) next where
  window := by rw [hruntime, h.failures.window]
  threshold := by rw [hruntime, h.failures.threshold]
  sorted := by
    rcases hown with rfl | rfl
    · rw [List.append_nil]
      exact h.failures.sorted
    · refine List.pairwise_append.2 ⟨h.failures.sorted, List.pairwise_singleton _ _, ?_⟩
      intro s hs s' hs'
      rw [List.mem_singleton.1 hs']
      exact (h.failures.past s hs).trans hle
  past s hs := by
    rcases List.mem_append.1 hs with hs | hs
    · exact (h.failures.past s hs).trans hle
    · rcases hown with rfl | rfl
      · cases hs
      · rw [List.mem_singleton.1 hs]
  kept later hlater := by
    rw [hfailures, h.failures.window]
    exact trimFront_kept_append h.failures.kept hle own hlater

/-- A message that the first guards stop only ages the failures. -/
theorem Records.trimmed (h : Records t l core) (hle : t ≤ now) :
    Records now l (core.trimSandboxFailures now) := by
  have hnow := h.mono hle
  have hfailures := @Records.failures_append _ _ _ _ _ _ _ h hle [] (Or.inl rfl)
    (core.trimSandboxFailures now) rfl (by rw [List.append_nil]; rfl)
  rw [List.append_nil] at hfailures
  exact ⟨h.analyzer, h.detector, h.botConfig, h.runtime, h.suspiciousCfg, h.sessionBudget,
    h.analyzerState, h.breaker, h.statuses_sorted, hnow.statuses_past, hfailures, h.guard,
    hnow.seen_past, h.bucket, hnow.user, hnow.channel, hnow.guild, hnow.global⟩

/-- A message that reaches the guard is marked. -/
theorem Records.marked (h : Records t l core) (hle : t ≤ now) (order : IterOrder UInt64 Instant) :
    Records now { l with seen := l.seen ++ [(ctx.messageId, now)] } (core.marked ctx now order) := by
  have htrim := h.trimmed hle
  refine ⟨h.analyzer, h.detector, h.botConfig, h.runtime, h.suspiciousCfg, h.sessionBudget,
    h.analyzerState, h.breaker, h.statuses_sorted, htrim.statuses_past,
    htrim.failures.mono (le_refl now) rfl rfl rfl, h.guard.mark, ?_, h.bucket, htrim.user,
    htrim.channel, htrim.guild, htrim.global⟩
  intro mark hmark
  rcases List.mem_append.1 hmark with hmark | hmark
  · exact htrim.seen_past mark hmark
  · rw [List.mem_singleton.1 hmark]

/-- The answer of the analyzer is the proposal, and its failure is written down. -/
theorem Records.asked (h : Records t l core) (hle : t ≤ now) (nfkc : Text → Text) (content : Text)
    (order : IterOrder UInt64 Instant) :
    (({ l with seen := l.seen ++ [(ctx.messageId, now)] } : Ledger F σ).consult nfkc content now).1 =
        core.proposalFor nfkc content ∧
      Records now
        (({ l with seen := l.seen ++ [(ctx.messageId, now)] } : Ledger F σ).consult nfkc content now).2
        (core.asked nfkc ctx content now order) := by
  have hmarked := @Records.marked _ _ _ _ _ _ _ ctx h hle order
  have hruntime : (core.asked nfkc ctx content now order).runtime = core.runtime := rfl
  have hsf : (core.asked nfkc ctx content now order).sandboxFailures =
    core.failuresAfter nfkc content now := rfl
  have hstate : (core.asked nfkc ctx content now order).analyzerState =
    core.analyzerStateAfter nfkc content := rfl
  rw [failuresAfter_eq] at hsf
  unfold analyzerStateAfter at hstate
  unfold consult proposalFor
  simp only [h.suspiciousCfg, h.analyzer, h.detector, h.analyzerState] at hsf hstate ⊢
  by_cases hhard : classifySuspiciousInput nfkc content l.suspiciousCfg = .hard
  · simp only [if_pos hhard] at hsf hstate ⊢
    have hfailures := h.failures_append hle (Or.inl rfl) hruntime hsf
    rw [List.append_nil] at hfailures
    exact ⟨trivial, h.analyzer, h.detector, h.botConfig, h.runtime, h.suspiciousCfg, h.sessionBudget,
      hstate, h.breaker, h.statuses_sorted, hmarked.statuses_past, hfailures, hmarked.guard,
      hmarked.seen_past, h.bucket, hmarked.user, hmarked.channel, hmarked.guild, hmarked.global⟩
  · simp only [if_neg hhard] at hsf hstate ⊢
    cases hanswer : (l.analyzer (request content (l.detector content)) l.analyzerState).1 with
    | ok proposal =>
      rw [hanswer] at hsf
      have hfailures := h.failures_append hle (Or.inl rfl) hruntime hsf
      rw [List.append_nil] at hfailures
      exact ⟨rfl, h.analyzer, h.detector, h.botConfig, h.runtime, h.suspiciousCfg, h.sessionBudget,
        hstate, h.breaker, h.statuses_sorted, hmarked.statuses_past, hfailures, hmarked.guard,
        hmarked.seen_past, h.bucket, hmarked.user, hmarked.channel, hmarked.guild, hmarked.global⟩
    | error err =>
      rw [hanswer] at hsf
      have hfailures := h.failures_append hle (Or.inr rfl) hruntime hsf
      exact ⟨rfl, h.analyzer, h.detector, h.botConfig, h.runtime, h.suspiciousCfg, h.sessionBudget,
        hstate, h.breaker, h.statuses_sorted, hmarked.statuses_past, hfailures, hmarked.guard,
        hmarked.seen_past, h.bucket, hmarked.user, hmarked.channel, hmarked.guild, hmarked.global⟩

/-! ### The limiters -/

theorem Records.affords_iff (h : Records t l core) :
    (core.outboundBucket.tryTake 1 now).1 = true ↔ l.Affords now := by
  rw [h.bucket]
  exact Iff.rfl

theorem Records.rested_iff (h : Records t l core) (hle : t ≤ now) :
    core.OwnRested ctx now ↔ l.Rested ctx now := by
  constructor
  · rintro ⟨huser, hchannel, hguild⟩
    exact ⟨(h.user.not_cooling hle).1 huser, (h.channel.not_cooling hle).1 hchannel,
      fun g hg => (h.guild.not_cooling hle).1 (hguild g hg)⟩
  · rintro ⟨huser, hchannel, hguild⟩
    exact ⟨(h.user.not_cooling hle).2 huser, (h.channel.not_cooling hle).2 hchannel,
      fun g hg => (h.guild.not_cooling hle).2 (hguild g hg)⟩

theorem Records.calm_iff (h : Records t l core) (hle : t ≤ now) :
    core.globalCooldown.isCooling 0 now = false ↔ l.Calm now :=
  h.global.not_cooling hle

theorem bucket_ask (l : Ledger F σ) (now : Instant) :
    (l.ask now).bucket = (l.bucket.tryTake 1 now).2 := by
  unfold bucket ask
  rw [List.foldl_append]
  rfl

theorem Records.ask (h : Records t l core) : Records t (l.ask now) (core.afterTake now) :=
  ⟨h.analyzer, h.detector, h.botConfig, h.runtime, h.suspiciousCfg, h.sessionBudget,
    h.analyzerState, h.breaker, h.statuses_sorted, h.statuses_past,
    h.failures.mono (le_refl t) rfl rfl rfl, h.guard, h.seen_past,
    by rw [bucket_ask, ← h.bucket], h.user, h.channel, h.guild, h.global⟩

theorem Records.markGuild (h : Records now l core) (ctx : MessageContext) :
    Records now (l.markGuild ctx now) (core.markGuild ctx now) := by
  unfold Ledger.markGuild TrustedCore.markGuild
  cases ctx.guildId with
  | none => exact h
  | some g =>
    exact ⟨h.analyzer, h.detector, h.botConfig, h.runtime, h.suspiciousCfg, h.sessionBudget,
      h.analyzerState, h.breaker, h.statuses_sorted, h.statuses_past,
      h.failures.mono (le_refl now) rfl rfl rfl, h.guard, h.seen_past, h.bucket, h.user, h.channel,
      h.guild.mark, h.global⟩

/-- A message that is acted on marks its author, its channel and the global cooldown. -/
theorem Records.act (h : Records now l core) (ctx : MessageContext) :
    Records now { l with acted := l.acted ++ [(ctx, now)] }
      { core with
        userCooldown := core.userCooldown.mark ctx.authorId now
        channelCooldown := core.channelCooldown.mark ctx.channelId now
        globalCooldown := core.globalCooldown.mark 0 now } := by
  have hacted : ∀ key : MessageContext → UInt64,
      ({ l with acted := l.acted ++ [(ctx, now)] } : Ledger F σ).actedBy key =
        l.actedBy key ++ [(key ctx, now)] := fun key => List.map_append
  refine ⟨h.analyzer, h.detector, h.botConfig, h.runtime, h.suspiciousCfg, h.sessionBudget,
    h.analyzerState, h.breaker, h.statuses_sorted, h.statuses_past,
    h.failures.mono (le_refl now) rfl rfl rfl, h.guard, h.seen_past, h.bucket, ?_, ?_, h.guild, ?_⟩
  · rw [hacted]
    exact h.user.mark
  · rw [hacted]
    exact h.channel.mark
  · rw [hacted]
    exact h.global.mark

omit [F64 F] in
theorem acted_markGuild (l : Ledger F σ) (ctx : MessageContext) (now : Instant) :
    (l.markGuild ctx now).acted = l.acted := by
  unfold Ledger.markGuild
  cases ctx.guildId <;> rfl

/-- The last step is the judgement on the compiled action. -/
theorem Records.settle (h : Records now l core) (ctx : MessageContext) {proposal : ActionProposal}
    {suspicion : SuspicionLevel} {mode : RuntimeMode} {detection : Option DetectionReport}
    (hcompiled : core.compiled proposal suspicion mode detection ≠ .noop) :
    (core.settle ctx proposal suspicion mode now detection).1 =
        ⟨if (l.limit ctx now).1 = none then core.compiled proposal suspicion mode detection else .noop,
          mode, proposal, suspicion, (l.limit ctx now).1⟩ ∧
      Records now (l.limit ctx now).2 (core.settle ctx proposal suspicion mode now detection).2 := by
  unfold TrustedCore.settle limit
  rw [if_neg hcompiled]
  by_cases htrip : l.Tripped now
  · rw [if_pos ((h.isOpen_iff (le_refl now)).2 htrip), if_pos htrip]
    exact ⟨rfl, h⟩
  rw [if_neg (mt (h.isOpen_iff (le_refl now)).1 htrip), if_neg htrip]
  by_cases htoken : l.Affords now
  swap
  · have hrefused : (core.outboundBucket.tryTake 1 now).1 = false := by
      rw [← Bool.not_eq_true, h.affords_iff]
      exact htoken
    rw [if_pos htoken, hrefused]
    exact ⟨rfl, h.ask⟩
  rw [h.affords_iff.2 htoken, if_neg (not_not.2 htoken), h.runtime]
  simp only [Bool.not_true, Bool.false_eq_true, if_false]
  by_cases hactions : l.runtime.maxActionsPerMessage = 0
  · rw [if_pos hactions, if_pos hactions]
    exact ⟨rfl, h.ask⟩
  rw [if_neg hactions, if_neg hactions]
  -- the cooldowns are looked at after a token was taken
  have hask : Records now (l.ask now) (core.afterTake now) := h.ask
  have hrested : (core.afterTake now).OwnRested ctx now ↔ l.Rested ctx now := by
    rw [← h.rested_iff (le_refl now)]
    exact ⟨fun hr => ⟨hr.user, hr.channel, hr.guild⟩, fun hr => ⟨hr.user, hr.channel, hr.guild⟩⟩
  have hcalm : (core.afterTake now).globalCooldown.isCooling 0 now = false ↔ l.Calm now :=
    hask.calm_iff (le_refl now)
  rcases cooldownAllows_cases (core.afterTake now) ctx now with
    ⟨hrest, hallows⟩ | ⟨hrest, hglobal, hallows⟩ | ⟨hrest, hglobal, hallows⟩
  · rw [hallows, if_pos (mt hrested.2 hrest)]
    exact ⟨rfl, hask⟩
  · have hbusy : ¬ l.Calm now := by
      rw [← hcalm, hglobal]
      exact Bool.true_eq_false_eq_False
    rw [hallows, if_neg (not_not.2 (hrested.1 hrest)), if_pos hbusy]
    exact ⟨rfl, hask.markGuild ctx⟩
  · rw [hallows, if_neg (not_not.2 (hrested.1 hrest)), if_neg (not_not.2 (hcalm.1 hglobal))]
    have hact := (hask.markGuild ctx).act ctx
    rw [acted_markGuild] at hact
    have hsame := (core.afterTake now).markGuild_frame ctx now
    rw [hsame.1, hsame.2.1, hsame.2.2] at hact
    exact ⟨rfl, hact⟩

/-- The last step, where nothing is compiled. -/
theorem settle_idle {proposal : ActionProposal} {suspicion : SuspicionLevel} {mode : RuntimeMode}
    {detection : Option DetectionReport}
    (hcompiled : core.compiled proposal suspicion mode detection = .noop) :
    core.settle ctx proposal suspicion mode now detection =
      (⟨.noop, mode, proposal, suspicion, idleReason mode proposal⟩, core) := by
  unfold TrustedCore.settle idleReason
  rw [if_pos hcompiled]
  split_ifs <;> rfl

/-! ### Steps -/

/-- **A decision is the judgement**, for an answer of the guard that the marks allow. -/
theorem Records.judge (h : Records t l core) (hle : t ≤ now) (nfkc : Text → Text)
    (ctx : MessageContext) (content : Text) (order : IterOrder UInt64 Instant) :
    ∃ dup, l.MayAnswer ctx.messageId now dup ∧
      (core.outcome nfkc ctx content now order).1 = (l.judge nfkc ctx content now dup).1 ∧
      Records now (l.judge nfkc ctx content now dup).2
        (core.outcome nfkc ctx content now order).2 := by
  refine ⟨(core.duplicateGuard.isDuplicateAndMark ctx.messageId now order).1,
    h.guard.exact fun mark hmark => (h.seen_past mark hmark).trans hle, ?_⟩
  have hmode := h.mode_eq hle
  unfold outcome Ledger.judge
  rw [h.objection_eq hle]
  cases hscreened : core.screened ctx now with
  | false =>
    rw [← hmode]
    exact ⟨rfl, h.trimmed hle⟩
  | true =>
    simp only [Bool.not_true, Bool.false_eq_true, if_false, if_true]
    cases (core.duplicateGuard.isDuplicateAndMark ctx.messageId now order).1 with
    | true =>
      rw [← hmode]
      exact ⟨rfl, h.marked hle order⟩
    | false =>
      obtain ⟨hproposal, hasked⟩ := @Records.asked _ _ _ _ _ _ _ ctx h hle nfkc content order
      have hcompiled : (core.asked nfkc ctx content now order).compiled
          (core.proposalFor nfkc content)
          (classifySuspiciousInput nfkc content core.suspiciousCfg) (core.effectiveMode now)
          (some (core.detector content)) = compileResponseFromDetection
            (({ l with seen := l.seen ++ [(ctx.messageId, now)] } : Ledger F σ).consult nfkc content
              now).1 (l.mode now) (classifySuspiciousInput nfkc content l.suspiciousCfg) l.botConfig
            l.runtime.maxSendChars l.botConfig.maxCountCap (some (l.detector content)) := by
        rw [hproposal, ← hmode, ← h.suspiciousCfg, ← h.botConfig, ← h.runtime, ← h.detector]
        rfl
      simp only [Bool.false_eq_true, if_false]
      generalize ({ l with seen := l.seen ++ [(ctx.messageId, now)] } : Ledger F σ).consult nfkc
        content now = consulted at hproposal hasked hcompiled ⊢
      rw [← hcompiled, hproposal, ← hmode, ← h.suspiciousCfg]
      by_cases hidle : (core.asked nfkc ctx content now order).compiled
          (core.proposalFor nfkc content)
          (classifySuspiciousInput nfkc content core.suspiciousCfg) (core.effectiveMode now)
          (some (core.detector content)) = .noop
      · rw [if_pos hidle, settle_idle hidle]
        exact ⟨rfl, hasked⟩
      · rw [if_neg hidle]
        exact hasked.settle ctx hidle

/-- What operators set is set in both. -/
theorem Records.obey (h : Records t l core) (f : Orders → Orders) :
    Records t (l.obey (f l.orders)) (core.obey (f core.orders)) := by
  have horders : core.orders = l.orders := by
    unfold TrustedCore.orders Ledger.orders
    rw [h.runtime, h.suspiciousCfg, h.sessionBudget]
  rw [horders]
  generalize f l.orders = o
  have hf := h.failures
  refine ⟨h.analyzer, h.detector, h.botConfig, ?_, rfl, rfl, h.analyzerState, h.breaker,
    h.statuses_sorted, h.statuses_past, ⟨hf.window, hf.threshold, hf.sorted, hf.past, hf.kept⟩,
    h.guard, h.seen_past, h.bucket, h.user, h.channel, h.guild, h.global⟩
  unfold TrustedCore.obey Ledger.obey
  rw [h.runtime]

/-- The other operations are written down. -/
theorem Records.note (h : Records t l core) (nfkc : Text → Text) {op : Op}
    (hle : t ≤ Runs.clock Op.instant? t op)
    (other : ∀ ctx content now order, op ≠ .decideMessage ctx content now order) :
    Records (Runs.clock Op.instant? t op) (l.note op) (core.step nfkc op) := by
  cases op with
  | decideMessage ctx content now order => exact absurd rfl (other ctx content now order)
  | recordHttpStatus status now =>
    rw [Op.clock_eq rfl] at hle ⊢
    have hnow := h.mono hle
    refine ⟨h.analyzer, h.detector, h.botConfig, h.runtime, h.suspiciousCfg, h.sessionBudget,
      h.analyzerState, h.breaker.record h.statuses_sorted hnow.statuses_past, ?_, ?_,
      hnow.failures.mono (le_refl now) rfl rfl rfl, h.guard, hnow.seen_past, h.bucket, hnow.user,
      hnow.channel, hnow.guild, hnow.global⟩
    · rw [Ledger.note, List.map_append]
      refine List.pairwise_append.2 ⟨h.statuses_sorted, List.pairwise_singleton _ _, ?_⟩
      intro s hs s' hs'
      obtain ⟨call, hcall, rfl⟩ := List.mem_map.1 hs
      rw [List.mem_singleton.1 hs']
      exact hnow.statuses_past call hcall
    · intro call hcall
      rcases List.mem_append.1 hcall with hcall | hcall
      · exact hnow.statuses_past call hcall
      · rw [List.mem_singleton.1 hcall]
  | setModeOverride mode => exact h.obey fun o => { o with modeOverride := mode }
  | setEmergencyKillSwitch enabled => exact h.obey fun o => { o with emergencyKillSwitch := enabled }
  | setAccessLists ag dg ac dc =>
    exact h.obey fun o => { o with
      allowGuildIds := ag, denyGuildIds := dg, allowChannelIds := ac, denyChannelIds := dc }
  | setSuspiciousThresholds soft hard rep =>
    exact h.obey fun o => { o with suspiciousCfg := ⟨soft, hard, max rep 1⟩ }
  | resetSuspiciousThresholds =>
    have hstep : core.step nfkc .resetSuspiciousThresholds =
        core.obey { core.orders with suspiciousCfg := ⟨l.runtime.longMessageSoftChars,
          l.runtime.longMessageHardChars, max l.runtime.suspiciousRepetitionThreshold 1⟩ } := by
      rw [← h.runtime]
      rfl
    rw [hstep]
    exact h.obey fun o => { o with suspiciousCfg := ⟨l.runtime.longMessageSoftChars,
      l.runtime.longMessageHardChars, max l.runtime.suspiciousRepetitionThreshold 1⟩ }
  | updateSessionBudget total remaining reset =>
    have hstep : core.step nfkc (.updateSessionBudget total remaining reset) =
        core.obey { core.orders with sessionBudget :=
          (SessionBudget.new total remaining reset l.runtime.sessionBudgetLowWatermark) } := by
      rw [← h.runtime]
      rfl
    rw [hstep]
    exact h.obey fun o => { o with sessionBudget :=
      (SessionBudget.new total remaining reset l.runtime.sessionBudgetLowWatermark) }
  | recordReconnectAttempt => exact h.withBooks core.mode (core.step nfkc .recordReconnectAttempt).metrics
  | recordResumeFailure => exact h.withBooks core.mode (core.step nfkc .recordResumeFailure).metrics

/-- Every step of the core is one of the ledger. -/
theorem Records.step (h : Records t l core) (nfkc : Text → Text) (op : Op)
    (hle : t ≤ Runs.clock Op.instant? t op) :
    ∃ l', Step nfkc l op ((core.decided nfkc op).map Decided.decision) l' ∧
      Records (Runs.clock Op.instant? t op) l' (core.step nfkc op) := by
  cases op with
  | decideMessage ctx content now order =>
    rw [Op.clock_eq rfl] at hle ⊢
    obtain ⟨dup, hmay, hdecision, hrecords⟩ := h.judge hle nfkc ctx content order
    obtain ⟨mode, metrics, heq⟩ := core.decideMessage_eq_outcome nfkc ctx content now order
    refine ⟨(l.judge nfkc ctx content now dup).2, ?_, ?_⟩
    · unfold decided
      simp only
      rw [heq, Option.map_some, hdecision]
      exact Step.judged dup hmay
    · unfold TrustedCore.step
      simp only
      rw [heq]
      exact hrecords.withBooks mode metrics
  | _ =>
    refine ⟨l.note _, Step.noted ?_, h.note nfkc hle ?_⟩
    · rintro _ _ _ _ ⟨⟩
    · rintro _ _ _ _ ⟨⟩

end Records

/-- After a run at non-decreasing instants there is a ledger of the core. -/
theorem exists_records (nfkc : Text → Text) (analyzer : ProposalAnalyzer σ) (analyzerState : σ)
    (detector : MessageDetector) (botConfig : BotConfig) (runtime : RuntimeProtectionConfig F)
    (start : Instant) {ops : List Op} (hops : Runs.Clocked Op.instant? start ops) :
    ∃ l, Records (ops.foldl (Runs.clock Op.instant?) start) l
      (reached nfkc analyzer analyzerState detector botConfig runtime start ops) := by
  have hstep : ∀ t (_ : List Decided) (core : TrustedCore F σ) op,
      t ≤ Runs.clock Op.instant? t op → (∃ l, Records t l core) →
        ∃ l, Records (Runs.clock Op.instant? t op) l (core.step nfkc op) := by
    rintro t - core op hle ⟨l, h⟩
    obtain ⟨l', -, hnext⟩ := h.step nfkc op hle
    exact ⟨l', hnext⟩
  exact @Runs.timed_inv _ _ _ _ _ _ _ (decided nfkc) _ hstep start [] _ ops
    ⟨_, records_new analyzer analyzerState detector botConfig runtime start⟩ hops

/-- **The core decides as if it forgot nothing.**  In every run at non-decreasing instants, with any
analyzer and any detector, the decisions are those that the ledger comes to, and at the end the core is
what the ledger says it is. -/
theorem core_refines_ledger (nfkc : Text → Text) (analyzer : ProposalAnalyzer σ) (analyzerState : σ)
    (detector : MessageDetector) (botConfig : BotConfig) (runtime : RuntimeProtectionConfig F)
    (start : Instant) (ops : List Op) (hops : Runs.Clocked Op.instant? start ops) :
    ∃ l, Runs.Shows (Step nfkc)
        (Ledger.new analyzer analyzerState detector botConfig runtime start) ops
        ((decisions nfkc (newWithDetector analyzer analyzerState detector botConfig runtime start)
          ops).map Decided.decision) l ∧
      Records (ops.foldl (Runs.clock Op.instant?) start) l
        (reached nfkc analyzer analyzerState detector botConfig runtime start ops) := by
  unfold decisions
  rw [← Runs.trace_map]
  exact Runs.shows_of_sim (fun _ _ _ op hle h => h.step nfkc op hle)
    (records_new analyzer analyzerState detector botConfig runtime start) hops

theorem core_refines_ledger_twoMessages :
    ∃ l, Runs.Shows (Step id)
        (Ledger.new (fun _ s => (.ok .reactOnce, s)) () (fun _ => ⟨.morphologicalReading, [], [], 1, 0,
          1, false, 0⟩) canonicalBotConfig (defaultRuntimeProtectionConfig ℚ) 0) twoMessages
        ((decisions id reactingCore twoMessages).map Decided.decision) l ∧
      Records (twoMessages.foldl (Runs.clock Op.instant?) 0) l
        (Runs.run (step id) reactingCore twoMessages) :=
  core_refines_ledger id _ () _ canonicalBotConfig (defaultRuntimeProtectionConfig ℚ) 0 twoMessages
    twoMessages_clocked

end Ledger

end OoBot
