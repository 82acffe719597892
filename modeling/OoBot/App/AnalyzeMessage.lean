import OoBot.Domain.Detector

/-!
# `src/app/analyze_message.rs`

The pure analyzer: from a message, its detection report and the bot's configuration to an action.

The release profile checks for overflow, so an addition beyond `usize::MAX` panics: the result is `none`.
No other addition of the analyzer can overflow, since a string has at most `isize::MAX` bytes.  That memory
runs out, or that a string would grow beyond this size, is not modelled.
-/

namespace OoBot

/-- `BotAction`. -/
inductive BotAction
  | noop
  | react (emojiId : UInt64) (emojiName : Text) (animated : Bool)
  | sendMessage (content : Text)
  deriving DecidableEq

/-- `ActionPolicy`. -/
inductive ActionPolicy
  | reactOrSend
  | reactOnly
  | noOutbound
  deriving DecidableEq, Repr

/-- `ReactionConfig`. -/
structure ReactionConfig where
  emojiId : UInt64
  emojiName : Text
  animated : Bool
  deriving DecidableEq

/-- The reaction that is configured. -/
def ReactionConfig.action (r : ReactionConfig) : BotAction := .react r.emojiId r.emojiName r.animated

/-- `BotConfig`. -/
structure BotConfig where
  specialPhrase : Text
  stampText : Text
  reaction : ReactionConfig
  maxCountCap : ℕ
  maxSendChars : ℕ
  sendTemplate : Text
  actionPolicy : ActionPolicy
  deriving DecidableEq

/-- `usize::MAX`, and `u64::MAX`. -/
def maxUsize : ℕ := 2 ^ 64 - 1

/-- `max_repeats_for_len`. -/
def maxRepeatsForLen (stamp : Text) (maxSendChars : ℕ) : Option ℕ :=
  if stamp.isEmpty then some 0
  -- `max_send_chars + separator` overflows
  else if maxUsize < maxSendChars + 1 then none
  else some ((maxSendChars + 1) / (stamp.length + 1))

/-- `join_repeated`. -/
def joinRepeated (stamp : Text) (repeats : ℕ) : Text := [' '].intercalate (List.replicate repeats stamp)

/-- `enforce_action_policy`. -/
def enforceActionPolicy (action : BotAction) (config : BotConfig) : BotAction :=
  match config.actionPolicy with
  | .reactOrSend => action
  | .reactOnly =>
      match action with
      | .sendMessage _ => config.reaction.action
      | other => other
  | .noOutbound => .noop

/-- `sanitize_template_value`. -/
def sanitizeTemplateValue (value : Text) : Text :=
  (replace (replace value ['$', '{'] []) ['}'] []).filter fun ch =>
    !isControl ch || ch == '\n' || ch == '\t'

/-- The placeholders of `render_send_template`, in the order in which they are replaced. -/
def templatePlaceholders (config : BotConfig) (count : ℕ) (report : DetectionReport) :
    List (Text × Text) :=
  [("$\x7bcount\x7d".toList, sanitizeTemplateValue (natText count)),
    ("$\x7bstamp\x7d".toList, sanitizeTemplateValue config.stampText),
    ("$\x7bmatched_backend\x7d".toList, sanitizeTemplateValue report.matchedBackend),
    ("$\x7bmatched_reading\x7d".toList,
      sanitizeTemplateValue (report.matchedReadings.head?.getD [])),
    ("$\x7baction_kind\x7d".toList, sanitizeTemplateValue "send_message".toList)]

/-- `render_send_template`. -/
def renderSendTemplate (config : BotConfig) (count : ℕ) (report : DetectionReport) : Option Text :=
  let output := (templatePlaceholders config count report).foldl
    (fun output placeholder => replace output placeholder.1 placeholder.2) config.sendTemplate
  if contains output ['$', '{'] then none
  else
    let expanded := if output = config.stampText then joinRepeated output count else output
    let capped := expanded.take config.maxSendChars
    if capped.isEmpty then none else some capped

/-- `analyze_message_with_detector`. -/
def analyzeMessageWithDetector (content : Text) (authorIsBot : Bool) (config : BotConfig)
    (detector : MessageDetector) : Option BotAction :=
  if authorIsBot then some .noop
  else
    let report := detector content
    if report.specialPhraseHit || contains content config.specialPhrase then
      some (.sendMessage config.stampText)
    else
      let total := report.totalCount
      if total = 0 then some .noop
      else
        let capped := min total (max config.maxCountCap 1)
        if capped = 1 then some config.reaction.action
        else
          match maxRepeatsForLen config.stampText config.maxSendChars with
          | none => none
          | some maxRepeats =>
              let maxRepeatsByLen := max maxRepeats 1
              let repeats := min capped maxRepeatsByLen
              let action := .sendMessage ((renderSendTemplate config repeats report).getD
                (joinRepeated config.stampText repeats))
              some (enforceActionPolicy action config)

/-! ### Repeated stamps -/

@[simp] theorem joinRepeated_one (stamp : Text) : joinRepeated stamp 1 = stamp := by
  simp [joinRepeated, List.intercalate]

theorem joinRepeated_succ (stamp : Text) (n : ℕ) :
    joinRepeated stamp (n + 2) = stamp ++ ' ' :: joinRepeated stamp (n + 1) := rfl

theorem joinRepeated_length (stamp : Text) (n : ℕ) :
    (joinRepeated stamp (n + 1)).length + 1 = (n + 1) * (stamp.length + 1) := by
  induction n with
  | zero => simp
  | succ n ih =>
    rw [joinRepeated_succ, List.length_append, List.length_cons, Nat.succ_mul (n + 1), ← ih]
    omega

/-- How many stamps fit, with a blank between any two of them. -/
def stampRoom (stamp : Text) (maxSendChars : ℕ) : ℕ :=
  if stamp.isEmpty then 0 else (maxSendChars + 1) / (stamp.length + 1)

/-- The room for stamps is computed, or the sum in it overflows. -/
theorem maxRepeatsForLen_eq (stamp : Text) (maxSendChars : ℕ) :
    maxRepeatsForLen stamp maxSendChars =
      if stamp ≠ [] ∧ maxUsize ≤ maxSendChars then none else some (stampRoom stamp maxSendChars) := by
  unfold maxRepeatsForLen stampRoom
  cases stamp with
  | nil => simp
  | cons c stamp =>
    by_cases hlt : maxUsize < maxSendChars + 1
    · rw [if_neg (by simp), if_pos hlt, if_pos ⟨by simp, Nat.le_of_lt_succ hlt⟩]
    · have hroom : ¬ (c :: stamp ≠ [] ∧ maxUsize ≤ maxSendChars) := fun h => hlt (Nat.lt_succ_of_le h.2)
      rw [if_neg (by simp), if_neg hlt, if_neg hroom, if_neg (by simp)]

theorem maxRepeatsForLen_of_lt (stamp : Text) {maxSendChars : ℕ} (h : maxSendChars < maxUsize) :
    maxRepeatsForLen stamp maxSendChars = some (stampRoom stamp maxSendChars) := by
  rw [maxRepeatsForLen_eq, if_neg fun hover => Nat.not_le.2 h hover.2]

/-- As many stamps as there is room for fit. -/
theorem joinRepeated_length_le {stamp : Text} {repeats maxSendChars : ℕ}
    (h : repeats ≤ stampRoom stamp maxSendChars) :
    (joinRepeated stamp repeats).length ≤ maxSendChars := by
  cases repeats with
  | zero => exact Nat.zero_le _
  | succ n =>
    have hne : stamp.isEmpty = false := by
      by_contra hempty
      rw [stampRoom, if_pos (by simpa using hempty)] at h
      omega
    rw [stampRoom, hne, if_neg Bool.false_ne_true,
      Nat.le_div_iff_mul_le stamp.length.succ_pos, Nat.succ_eq_add_one] at h
    have hlen := joinRepeated_length stamp n
    omega

end OoBot
