import OoBot.Config

/-!
# The exits of the pure analyzer

The analyzer leaves through one of five exits, and only the last two look at the action policy.  The
first is taken for a special phrase, and it tests the first of the configured phrases once more,
without the detector's guard against an empty one.

* `obeys_iff`: when the analyzer returns, and what it returns is what its own configuration permits.
* `agrees_iff`: when it takes the first exit for the same messages as the governed path.
-/

namespace OoBot

/-- The test of the special-phrase exit. -/
def takesSpecialPhrase (content : Text) (config : BotConfig) (report : DetectionReport) : Bool :=
  report.specialPhraseHit || contains content config.specialPhrase

/-- How often the analyzer repeats the stamp. -/
def analyzerRepeats (config : BotConfig) (total : ℕ) : ℕ :=
  min (min total (max config.maxCountCap 1))
    (max (stampRoom config.stampText config.maxSendChars) 1)

/-- The text of the last two exits. -/
def analyzerText (config : BotConfig) (report : DetectionReport) : Text :=
  (renderSendTemplate config (analyzerRepeats config report.totalCount) report).getD
    (joinRepeated config.stampText (analyzerRepeats config report.totalCount))

/-- The template with its placeholders filled in. -/
def filledTemplate (config : BotConfig) (count : ℕ) (report : DetectionReport) : Text :=
  (templatePlaceholders config count report).foldl
    (fun output placeholder => replace output placeholder.1 placeholder.2) config.sendTemplate

/-- The filled template is a text, and nothing in it looks like a placeholder. -/
def FillsIn (config : BotConfig) (count : ℕ) (report : DetectionReport) : Prop :=
  filledTemplate config count report ≠ [] ∧
    contains (filledTemplate config count report) ['$', '{'] = false

instance (config : BotConfig) (count : ℕ) (report : DetectionReport) :
    Decidable (FillsIn config count report) :=
  inferInstanceAs (Decidable (_ ∧ _))

/-- The action is one that the configuration permits. -/
structure Obeys (config : BotConfig) (action : BotAction) : Prop where
  noOutbound : config.actionPolicy = .noOutbound → action = .noop
  reactOnly : config.actionPolicy = .reactOnly → ∀ text, action ≠ .sendMessage text
  capped : ∀ text, action = .sendMessage text → text.length ≤ config.maxSendChars

section Exits

variable {content : Text} {config : BotConfig} {detector : MessageDetector} {report : DetectionReport}

/-- **The five exits**: a special phrase, no hit, a single hit, and the text of the template or else
the repeated stamp, where the room for stamps can be computed. -/
theorem analyzeMessage_exits (content : Text) (config : BotConfig) (detector : MessageDetector) :
    analyzeMessageWithDetector content false config detector =
      if takesSpecialPhrase content config (detector content) then
        some (.sendMessage config.stampText)
      else if (detector content).totalCount = 0 then some .noop
      else if min (detector content).totalCount (max config.maxCountCap 1) = 1 then
        some config.reaction.action
      else if config.stampText ≠ [] ∧ maxUsize ≤ config.maxSendChars then none
      else some
        (enforceActionPolicy (.sendMessage (analyzerText config (detector content))) config) := by
  unfold analyzeMessageWithDetector takesSpecialPhrase analyzerText analyzerRepeats
  simp only [Bool.false_eq_true, if_false]
  rw [maxRepeatsForLen_eq]
  by_cases hover : config.stampText ≠ [] ∧ maxUsize ≤ config.maxSendChars
  · rw [if_pos hover, if_pos hover]
  · rw [if_neg hover, if_neg hover]

/-! ### What each exit obeys -/

theorem obeys_noop (config : BotConfig) : Obeys config .noop where
  noOutbound := fun _ => rfl
  reactOnly := fun _ _ => nofun
  capped := nofun

theorem obeys_react_iff : Obeys config config.reaction.action ↔ config.actionPolicy ≠ .noOutbound := by
  constructor
  · intro h hpolicy
    cases h.noOutbound hpolicy
  · intro hpolicy
    exact ⟨fun h => absurd h hpolicy, fun _ _ => nofun, nofun⟩

theorem obeys_sendMessage_iff {text : Text} : Obeys config (.sendMessage text) ↔
    config.actionPolicy = .reactOrSend ∧ text.length ≤ config.maxSendChars := by
  constructor
  · intro h
    refine ⟨?_, h.capped text rfl⟩
    cases hpolicy : config.actionPolicy with
    | reactOrSend => rfl
    | reactOnly => exact absurd rfl (h.reactOnly hpolicy text)
    | noOutbound => cases h.noOutbound hpolicy
  · rintro ⟨hpolicy, hlen⟩
    refine ⟨fun h => ?_, fun h => ?_, ?_⟩
    · cases hpolicy.symm.trans h
    · cases hpolicy.symm.trans h
    · rintro _ ⟨⟩
      exact hlen

/-- The policy is looked at before the text leaves; the cap is not. -/
theorem obeys_enforced_iff {text : Text} :
    Obeys config (enforceActionPolicy (.sendMessage text) config) ↔
      (config.actionPolicy = .reactOrSend → text.length ≤ config.maxSendChars) := by
  unfold enforceActionPolicy
  cases hpolicy : config.actionPolicy with
  | reactOrSend =>
    rw [obeys_sendMessage_iff, hpolicy]
    simp
  | reactOnly =>
    refine iff_of_true (obeys_react_iff.2 (by rw [hpolicy]; decide)) nofun
  | noOutbound => exact iff_of_true (obeys_noop config) nofun

/-! ### The length of the text -/

theorem renderSendTemplate_length {count : ℕ} {text : Text}
    (h : renderSendTemplate config count report = some text) : text.length ≤ config.maxSendChars := by
  unfold renderSendTemplate at h
  simp only at h
  split_ifs at h
  all_goals
    cases h
    exact List.length_take_le _ _

/-- A single repetition is rendered exactly when the template can be filled in. -/
theorem renderSendTemplate_one (hcap : 1 ≤ config.maxSendChars) :
    renderSendTemplate config 1 report =
      if FillsIn config 1 report then
        some ((filledTemplate config 1 report).take config.maxSendChars)
      else none := by
  have hjoin : ∀ output : Text,
      (if output = config.stampText then joinRepeated output 1 else output) = output := by
    intro output
    split_ifs
    · exact joinRepeated_one output
    · rfl
  have htake : ∀ output : Text, (output.take config.maxSendChars).isEmpty = output.isEmpty := by
    intro output
    cases output with
    | nil => simp
    | cons c cs =>
      obtain ⟨n, hn⟩ : ∃ n, config.maxSendChars = n + 1 := ⟨_, (Nat.succ_pred_eq_of_pos hcap).symm⟩
      rw [hn]
      rfl
  unfold renderSendTemplate
  show (if contains (filledTemplate config 1 report) ['$', '{'] then none else _) = _
  simp only [hjoin]
  rw [show (templatePlaceholders config 1 report).foldl
    (fun output placeholder => replace output placeholder.1 placeholder.2) config.sendTemplate =
      filledTemplate config 1 report from rfl, htake]
  by_cases hleft : contains (filledTemplate config 1 report) ['$', '{'] = true
  · have hno : ¬ FillsIn config 1 report := fun h => Bool.false_ne_true (h.2.symm.trans hleft)
    rw [if_pos hleft, if_neg hno]
  · rw [if_neg hleft]
    by_cases hempty : filledTemplate config 1 report = []
    · have hno : ¬ FillsIn config 1 report := fun h => h.1 hempty
      rw [if_pos (List.isEmpty_iff.2 hempty), if_neg hno]
    · have hfills : FillsIn config 1 report := ⟨hempty, Bool.eq_false_iff.2 hleft⟩
      rw [if_neg (fun h => hempty (List.isEmpty_iff.1 h)), if_pos hfills]

/-- A stamp that is longer than the cap is not repeated. -/
theorem analyzerRepeats_of_lt (hlen : config.maxSendChars < config.stampText.length)
    {total : ℕ} (htotal : total ≠ 0) : analyzerRepeats config total = 1 := by
  have hroom : stampRoom config.stampText config.maxSendChars = 0 := by
    unfold stampRoom
    split_ifs
    · rfl
    · exact Nat.div_eq_of_lt (by omega)
  unfold analyzerRepeats
  rw [hroom]
  omega

/-- The repeated stamp fits, unless a single stamp does not. -/
theorem joinRepeated_analyzer_length (hlen : config.stampText.length ≤ config.maxSendChars) (total : ℕ) :
    (joinRepeated config.stampText (analyzerRepeats config total)).length ≤ config.maxSendChars := by
  by_cases hroom : stampRoom config.stampText config.maxSendChars = 0
  · -- the clamp repeats the stamp once all the same
    have hle : analyzerRepeats config total ≤ 1 := by
      unfold analyzerRepeats
      rw [hroom]
      omega
    rcases Nat.le_one_iff_eq_zero_or_eq_one.1 hle with hrepeats | hrepeats
    · rw [hrepeats]
      exact Nat.zero_le _
    · rwa [hrepeats, joinRepeated_one]
  · refine joinRepeated_length_le ?_
    unfold analyzerRepeats
    omega

/-- The text of the last two exits keeps to the cap, unless the stamp is too long for it and the
template has no text to offer. -/
theorem analyzerText_length_iff (hcap : 1 ≤ config.maxSendChars) (htotal : report.totalCount ≠ 0) :
    (analyzerText config report).length ≤ config.maxSendChars ↔
      config.stampText.length ≤ config.maxSendChars ∨ FillsIn config 1 report := by
  by_cases hlen : config.stampText.length ≤ config.maxSendChars
  · refine iff_of_true ?_ (Or.inl hlen)
    unfold analyzerText
    cases hrender : renderSendTemplate config (analyzerRepeats config report.totalCount) report with
    | none => exact joinRepeated_analyzer_length hlen _
    | some text => exact renderSendTemplate_length hrender
  · have hrepeats := analyzerRepeats_of_lt (Nat.lt_of_not_le hlen) htotal
    unfold analyzerText
    rw [hrepeats, renderSendTemplate_one hcap, or_iff_right hlen]
    by_cases hfills : FillsIn config 1 report
    · rw [if_pos hfills]
      exact iff_of_true (List.length_take_le _ _) hfills
    · rw [if_neg hfills, Option.getD_none, joinRepeated_one]
      exact iff_of_false hlen hfills

/-! ### The configuration is obeyed -/

/-- What the configuration must permit for a message with this report. -/
structure Permits (config : BotConfig) (content : Text) (report : DetectionReport) : Prop where
  specialPhrase : takesSpecialPhrase content config report →
    config.actionPolicy = .reactOrSend ∧ config.stampText.length ≤ config.maxSendChars
  singleHit : takesSpecialPhrase content config report = false → report.totalCount ≠ 0 →
    report.totalCount = 1 ∨ config.maxCountCap ≤ 1 → config.actionPolicy ≠ .noOutbound
  manyHits : takesSpecialPhrase content config report = false → 2 ≤ report.totalCount →
    2 ≤ config.maxCountCap → config.actionPolicy = .reactOrSend →
      config.stampText.length ≤ config.maxSendChars ∨ FillsIn config 1 report

theorem permits_special_iff (h : takesSpecialPhrase content config report = true) :
    Permits config content report ↔
      config.actionPolicy = .reactOrSend ∧ config.stampText.length ≤ config.maxSendChars := by
  have hno : takesSpecialPhrase content config report ≠ false := by simp [h]
  constructor
  · intro hpermits
    exact hpermits.specialPhrase h
  · intro hsend
    exact ⟨fun _ => hsend, fun h' => absurd h' hno, fun h' => absurd h' hno⟩

theorem permits_no_hit (h : takesSpecialPhrase content config report = false)
    (hzero : report.totalCount = 0) : Permits config content report := by
  have hno : ¬ takesSpecialPhrase content config report = true := by simp [h]
  refine ⟨fun h' => absurd h' hno, fun _ htotal => absurd hzero htotal, ?_⟩
  intro _ htwo
  omega

theorem permits_single_iff (h : takesSpecialPhrase content config report = false)
    (hone : min report.totalCount (max config.maxCountCap 1) = 1) :
    Permits config content report ↔ config.actionPolicy ≠ .noOutbound := by
  have hno : ¬ takesSpecialPhrase content config report = true := by simp [h]
  constructor
  · intro hpermits
    exact hpermits.singleHit h (by omega) (by omega)
  · intro hreact
    refine ⟨fun h' => absurd h' hno, fun _ _ _ => hreact, ?_⟩
    intro _ htwo hcount
    omega

theorem permits_many_iff (h : takesSpecialPhrase content config report = false)
    (hzero : report.totalCount ≠ 0)
    (hmany : min report.totalCount (max config.maxCountCap 1) ≠ 1) :
    Permits config content report ↔ (config.actionPolicy = .reactOrSend →
      config.stampText.length ≤ config.maxSendChars ∨ FillsIn config 1 report) := by
  have hno : ¬ takesSpecialPhrase content config report = true := by simp [h]
  constructor
  · intro hpermits
    exact hpermits.manyHits h (by omega) (by omega)
  · intro hfits
    refine ⟨fun h' => absurd h' hno, ?_, fun _ _ _ => hfits⟩
    intro _ _ hfew
    omega

/-- Where the stamp is repeated, the room for it is computed without an overflow. -/
def Returns (config : BotConfig) (content : Text) (report : DetectionReport) : Prop :=
  takesSpecialPhrase content config report = false → 2 ≤ report.totalCount → 2 ≤ config.maxCountCap →
    config.stampText = [] ∨ config.maxSendChars < maxUsize

theorem returns_many_iff (h : takesSpecialPhrase content config report = false)
    (hzero : report.totalCount ≠ 0)
    (hmany : min report.totalCount (max config.maxCountCap 1) ≠ 1) :
    Returns config content report ↔ ¬ (config.stampText ≠ [] ∧ maxUsize ≤ config.maxSendChars) := by
  rw [not_and_or, not_not, Nat.not_le]
  constructor
  · intro hreturns
    exact hreturns h (by omega) (by omega)
  · intro hroom _ _ _
    exact hroom

/-- What the analyzer comes to: it returns an action that obeys just where this is permitted, unless the
room for stamps overflows. -/
theorem analyzeMessage_obeys (content : Text) (config : BotConfig) (detector : MessageDetector)
    (hcap : 1 ≤ config.maxSendChars) :
    (∃ action, analyzeMessageWithDetector content false config detector = some action ∧
        Returns config content (detector content) ∧
          (Obeys config action ↔ Permits config content (detector content))) ∨
      (analyzeMessageWithDetector content false config detector = none ∧
        ¬ Returns config content (detector content)) := by
  rw [analyzeMessage_exits]
  generalize detector content = report
  cases hspecial : takesSpecialPhrase content config report with
  | true =>
    have hreturns : Returns config content report := fun h => by
      rw [hspecial] at h
      cases h
    exact .inl ⟨_, if_pos rfl, hreturns, obeys_sendMessage_iff.trans (permits_special_iff hspecial).symm⟩
  | false =>
    rw [if_neg Bool.false_ne_true]
    by_cases hzero : report.totalCount = 0
    · have hreturns : Returns config content report := fun _ htwo => by omega
      exact .inl ⟨_, if_pos hzero, hreturns,
        iff_of_true (obeys_noop config) (permits_no_hit hspecial hzero)⟩
    · rw [if_neg hzero]
      by_cases hone : min report.totalCount (max config.maxCountCap 1) = 1
      · have hreturns : Returns config content report := fun _ htwo hcount => by omega
        exact .inl ⟨_, if_pos hone, hreturns,
          obeys_react_iff.trans (permits_single_iff hspecial hone).symm⟩
      · rw [if_neg hone]
        have hiff := returns_many_iff hspecial hzero hone
        by_cases hover : config.stampText ≠ [] ∧ maxUsize ≤ config.maxSendChars
        · exact .inr ⟨if_pos hover, fun hreturns => hiff.1 hreturns hover⟩
        · refine .inl ⟨_, if_neg hover, hiff.2 hover, ?_⟩
          rw [obeys_enforced_iff, analyzerText_length_iff hcap hzero,
            permits_many_iff hspecial hzero hone]

/-- **When the pure analyzer obeys its configuration.**  A special phrase needs the policy that sends,
and a stamp within the cap; a single hit needs a policy that reacts; and where the stamp is repeated, the
room for it does not overflow, and it is within the cap or the template is filled in instead.  An overflow
is the only way not to return. -/
theorem obeys_iff (content : Text) (authorIsBot : Bool) (config : BotConfig)
    (detector : MessageDetector) (hcap : 1 ≤ config.maxSendChars) :
    ((∃ action, analyzeMessageWithDetector content authorIsBot config detector = some action ∧
        Obeys config action) ↔
      authorIsBot = true ∨
        (Returns config content (detector content) ∧ Permits config content (detector content))) ∧
    (analyzeMessageWithDetector content authorIsBot config detector = none ↔
      authorIsBot = false ∧ ¬ Returns config content (detector content)) := by
  cases authorIsBot with
  | true =>
    have hnoop : analyzeMessageWithDetector content true config detector = some .noop := rfl
    rw [hnoop]
    refine ⟨iff_of_true ⟨_, rfl, obeys_noop config⟩ (Or.inl rfl), iff_of_false ?_ ?_⟩
    · rintro ⟨⟩
    · rintro ⟨⟨⟩, -⟩
  | false =>
    rw [or_iff_right Bool.false_ne_true]
    rcases analyzeMessage_obeys content config detector hcap with
      ⟨action, hsome, hreturns, hobeys⟩ | ⟨hnone, hnot⟩
    · rw [hsome]
      refine ⟨?_, iff_of_false (by rintro ⟨⟩) fun h => h.2 hreturns⟩
      rw [and_iff_right hreturns, ← hobeys]
      constructor
      · rintro ⟨_, ⟨⟩, h⟩
        exact h
      · intro h
        exact ⟨action, rfl, h⟩
    · rw [hnone]
      refine ⟨iff_of_false ?_ fun h => hnot h.1, iff_of_true rfl ⟨rfl, hnot⟩⟩
      rintro ⟨_, ⟨⟩, -⟩

end Exits

/-- A detector that has counted `total` hits and no special phrase. -/
def countingDetector (total : ℕ) : MessageDetector := fun _ =>
  ⟨.morphologicalReading, "morphological_reading".toList, [], total, 0, total, false, 0⟩

/-- Two hits under the canonical configuration. -/
theorem obeys_iff_canonical :
    (∃ action, analyzeMessageWithDetector "おおおお".toList false canonicalBotConfig
        (countingDetector 2) = some action ∧ Obeys canonicalBotConfig action) ↔
      false = true ∨
        (Returns canonicalBotConfig "おおおお".toList (countingDetector 2 "おおおお".toList) ∧
          Permits canonicalBotConfig "おおおお".toList (countingDetector 2 "おおおお".toList)) :=
  (obeys_iff "おおおお".toList false canonicalBotConfig (countingDetector 2) (by decide)).1

/-- A text under the policy without outbound actions, another under the policy that only reacts, a
reaction under the policy without outbound actions, two texts that are longer than the cap, and a panic
where there was nothing to be sent. -/
theorem analyzer_disobeys :
    (analyzeMessageWithDetector "これはおお".toList false
        { canonicalBotConfig with actionPolicy := .noOutbound } (countingDetector 0) =
      some (.sendMessage canonicalBotConfig.stampText)) ∧
    (analyzeMessageWithDetector "これはおお".toList false
        { canonicalBotConfig with actionPolicy := .reactOnly } (countingDetector 0) =
      some (.sendMessage canonicalBotConfig.stampText)) ∧
    (analyzeMessageWithDetector "おお".toList false
        { canonicalBotConfig with actionPolicy := .noOutbound } (countingDetector 1) =
      some canonicalBotConfig.reaction.action) ∧
    (analyzeMessageWithDetector "これはおお".toList false
        { canonicalBotConfig with maxSendChars := 28 } (countingDetector 0) =
      some (.sendMessage canonicalBotConfig.stampText)) ∧
    (analyzeMessageWithDetector "おおおお".toList false
        { canonicalBotConfig with maxSendChars := 28, sendTemplate := "${reading}".toList }
        (countingDetector 2) = some (.sendMessage canonicalBotConfig.stampText)) ∧
    (analyzeMessageWithDetector "おおおお".toList false
        { canonicalBotConfig with actionPolicy := .noOutbound, maxSendChars := maxUsize }
        (countingDetector 2) = none) ∧
    28 < canonicalBotConfig.stampText.length := by
  decide

/-! ### Special phrases -/

section Phrases

variable {F : Type}

/-- Some configured special phrase that is not empty occurs in the message. -/
def DetectorConfig.PhraseOccurs (self : DetectorConfig) (content : Text) : Prop :=
  ∃ phrase ∈ self.specialPhrases, phrase ≠ [] ∧ contains content phrase = true

theorem contains_nil (content : Text) : contains content [] = true :=
  decide_eq_true (List.nil_infix)

/-- The governed path reads the hit off the detection, which is made of all the phrases. -/
theorem specialPhraseHit_iff {d : MorphologicalReadingDetector} {detector : DetectorConfig}
    (hpolicy : d.policy = detector.asPolicy) (content : Text) :
    (d.detect content).specialPhraseHit = true ↔ detector.PhraseOccurs content := by
  rw [detect_specialPhraseHit, hpolicy, List.any_eq_true]
  unfold DetectorConfig.PhraseOccurs
  simp [DetectorConfig.asPolicy]

/-- The first configured phrase, if there is any. -/
theorem asBotConfig_specialPhrase (bot : BotPolicyConfig) (detector : DetectorConfig) :
    (bot.asBotConfig detector).specialPhrase = detector.specialPhrases.head?.getD [] := rfl

/-- Where the first phrase is not empty, its second test adds nothing. -/
theorem phraseOccurs_of_first {detector : DetectorConfig} {content : Text}
    (hne : detector.specialPhrases.head?.getD [] ≠ [])
    (hfirst : contains content (detector.specialPhrases.head?.getD []) = true) :
    detector.PhraseOccurs content := by
  cases hphrases : detector.specialPhrases with
  | nil =>
    rw [hphrases] at hne
    exact absurd rfl hne
  | cons phrase phrases =>
    rw [hphrases] at hne hfirst
    exact ⟨phrase, by rw [hphrases]; exact List.mem_cons_self, hne, hfirst⟩

/-- **When both paths agree on special phrases.**  The hit of the governed path says that a non-empty
phrase occurs; the pure analyzer takes its special-phrase exit for the same message exactly when such a
phrase occurs or the first configured phrase is not empty. -/
theorem agrees_iff (cfg : StartupConfig F) (nfkc : Text → Text)
    (tokenize : Text → TokenizerResult) (content : Text) :
    (((MorphologicalReadingDetector.mk nfkc cfg.detector.asPolicy tokenize).detect
        content).specialPhraseHit = true ↔ cfg.detector.PhraseOccurs content) ∧
      ((takesSpecialPhrase content (cfg.bot.asBotConfig cfg.detector)
          ((MorphologicalReadingDetector.mk nfkc cfg.detector.asPolicy tokenize).detect content) =
            true ↔ cfg.detector.PhraseOccurs content) ↔
        cfg.detector.specialPhrases.head?.getD [] ≠ [] ∨ cfg.detector.PhraseOccurs content) := by
  have hhit := @specialPhraseHit_iff ⟨nfkc, cfg.detector.asPolicy, tokenize⟩ cfg.detector rfl content
  refine ⟨hhit, ?_⟩
  unfold takesSpecialPhrase
  rw [Bool.or_eq_true, hhit, asBotConfig_specialPhrase]
  constructor
  · intro h
    by_cases hempty : cfg.detector.specialPhrases.head?.getD [] = []
    · -- an empty phrase is found in every message
      rw [hempty] at h
      exact Or.inr (h.1 (Or.inr (contains_nil content)))
    · exact Or.inl hempty
  · rintro (hne | hoccurs)
    · exact ⟨fun h => h.elim id (phraseOccurs_of_first hne), Or.inl⟩
    · exact iff_of_true (Or.inl hoccurs) hoccurs

end Phrases

/-- The canonical configuration with an empty first phrase. -/
def emptyPhraseConfig : StartupConfig ℚ :=
  { canonicalStartupConfig ℚ with
    detector := { canonicalDetectorConfig with specialPhrases := [[], "これはおお".toList] } }

/-- With an accepted configuration whose first phrase is empty, the analyzer answers every message as
if it held a special phrase; the detection says that it holds none. -/
theorem empty_phrase_disagrees :
    validateConfig emptyPhraseConfig = .ok () ∧
      ((MorphologicalReadingDetector.mk id emptyPhraseConfig.detector.asPolicy
        (fun _ => .tokens [])).detect "ねこ".toList).specialPhraseHit = false ∧
      takesSpecialPhrase "ねこ".toList (emptyPhraseConfig.bot.asBotConfig emptyPhraseConfig.detector)
        ((MorphologicalReadingDetector.mk id emptyPhraseConfig.detector.asPolicy
          (fun _ => .tokens [])).detect "ねこ".toList) = true ∧
      analyzeMessageWithDetector "ねこ".toList false
          (emptyPhraseConfig.bot.asBotConfig emptyPhraseConfig.detector)
          (MorphologicalReadingDetector.mk id emptyPhraseConfig.detector.asPolicy
            (fun _ => .tokens [])).detect =
        some (.sendMessage canonicalBotConfig.stampText) := by
  refine ⟨by decide, by decide, by decide, by decide⟩

end OoBot
