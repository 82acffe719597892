import OoBot.Config.Template
import OoBot.Lib.Substitution
import OoBot.Security.Stamps

/-!
# Rendering as simultaneous substitution

Both renderers replace one placeholder after the other, each on the text that the ones before have left.
`render_template_iff` says when an accepted template is rendered as if all were replaced in one pass.
-/

namespace OoBot

open Substitution (Table Marked Fits Clear pieces substitute spell fillItems itemsFrom)

/-! ### The replacements -/

/-- The loop of `render_template` and of `render_send_template`. -/
def replaceAll (table : Table Char) (template : Text) : Text :=
  table.foldl (fun output r => replace output r.1 r.2) template

theorem renderTemplate_eq (template : Text) (count : ℕ) (stamp backend reading kind : Text) :
    renderTemplate template count stamp backend reading kind =
      let output := replaceAll (templateReplacements count stamp backend reading kind) template
      if contains output ['$', '{'] then none
      else if output = stamp then some (repeatStamp stamp count)
      else some output :=
  rfl

/-- The pure analyzer has the same replacements. -/
theorem templatePlaceholders_eq (config : BotConfig) (count : ℕ) (report : DetectionReport) :
    templatePlaceholders config count report =
      templateReplacements count config.stampText report.matchedBackend
        (report.matchedReadings.head?.getD []) "send_message".toList :=
  rfl

/-- The pure analyzer renders as the compiler does, and cuts the text to the cap. -/
theorem renderSendTemplate_eq (config : BotConfig) (count : ℕ) (report : DetectionReport) :
    renderSendTemplate config count report =
      (renderTemplate config.sendTemplate count config.stampText report.matchedBackend
        (report.matchedReadings.head?.getD []) "send_message".toList).bind fun content =>
          if (content.take config.maxSendChars).isEmpty then none
          else some (content.take config.maxSendChars) := by
  unfold renderSendTemplate
  rw [templatePlaceholders_eq, renderTemplate_eq]
  unfold replaceAll
  generalize templateReplacements _ _ _ _ _ = table
  generalize List.foldl (fun output r => replace output r.1 r.2) config.sendTemplate table = output
  by_cases hmarker : contains output ['$', '{']
  · simp only [hmarker, if_true]
    rfl
  · by_cases hstamp : output = config.stampText
    · subst hstamp
      simp only [hmarker, if_true]
      rfl
    · simp only [hmarker, hstamp, if_false]
      rfl

/-- A text is rendered unless the replacements leave an opening marker. -/
theorem renderTemplate_isSome_iff (template : Text) (count : ℕ) (stamp backend reading kind : Text) :
    (renderTemplate template count stamp backend reading kind).isSome ↔
      ¬ ['$', '{'] <:+:
        replaceAll (templateReplacements count stamp backend reading kind) template := by
  rw [renderTemplate_eq]
  simp only [contains, decide_eq_true_eq]
  split_ifs with h h'
  · simp [h]
  · simp [h]
  · simp [h]

/-- `str::replace` is one pass for a single needle. -/
theorem replaceFrom_eq_piecesFrom (needle value : Text) (skip : ℕ) (s : Text) :
    replaceFrom needle value skip s =
      (Substitution.piecesFrom [(needle, value)] skip s).flatten := by
  induction s generalizing skip with
  | nil => cases skip <;> rfl
  | cons c s ih =>
    cases skip with
    | succ skip => exact ih skip
    | zero =>
      rw [replaceFrom, Substitution.piecesFrom]
      by_cases hpre : needle <+: c :: s
      · simp [hpre, ih]
      · simp [hpre, ih]

theorem replaceAll_eq_foldl (table : Table Char) (template : Text) :
    replaceAll table template = table.foldl (fun s r => substitute [r] s) template := by
  have hstep : (fun (output : Text) (r : Text × Text) => replace output r.1 r.2) =
      fun s r => substitute [r] s := by
    funext output r
    exact replaceFrom_eq_piecesFrom r.1 r.2 0 output
  rw [replaceAll, hstep]

/-! ### The placeholders of a template -/

/-- The placeholders, as they stand in a template. -/
def placeholders : List Text := placeholderNames.map fun name => ['$', '{'] ++ name ++ ['}']

theorem placeholders_marked : Marked '$' '{' placeholders where
  ne := by decide
  shape n hn := by
    obtain ⟨name, hname, rfl⟩ := List.mem_map.1 hn
    refine ⟨name ++ ['}'], rfl, ?_⟩
    have hplain := (placeholderNames_plain name hname).1
    simp [hplain]
  code := by decide

/-- The replacements are the placeholders, each with a value. -/
theorem keys_templateReplacements (count : ℕ) (stamp backend reading kind : Text) :
    (templateReplacements count stamp backend reading kind).map (·.1) = placeholders :=
  rfl

theorem mem_placeholders {count : ℕ} {stamp backend reading kind : Text} {r : Text × Text}
    (h : r ∈ templateReplacements count stamp backend reading kind) : r.1 ∈ placeholders := by
  rw [← keys_templateReplacements count stamp backend reading kind]
  exact List.mem_map_of_mem h

/-- A well marked template is made of characters and placeholders. -/
theorem exists_items {template : Text} (h : WellMarked template) :
    ∃ its, template = spell its ∧ Fits '$' '{' placeholders its := by
  refine ⟨itemsFrom placeholders 0 template, ?_, Substitution.fits_itemsFrom fun i hi => ?_⟩
  · rw [Substitution.spell_itemsFrom placeholders_marked, List.drop_zero]
  · obtain ⟨name, hname, hpre⟩ := h i hi
    refine ⟨['$', '{'] ++ name ++ ['}'], List.mem_map.2 ⟨name, hname, rfl⟩, ?_⟩
    obtain ⟨rest, hrest⟩ := hi
    have htail : template.drop (i + 2) = rest := by
      rw [← List.drop_drop, ← hrest]
      rfl
    rw [htail] at hpre
    rwa [← hrest, List.append_assoc, List.prefix_append_right_inj]

/-! ### When the order makes no difference -/

section Stages

variable {table later : Table Char} {template : Text}

/-- Every stage is one pass for the placeholders so far, when the text at the end has no opening
marker. -/
theorem replaceAll_eq_substitute (htemplate : WellMarked template)
    (htable : ∀ r ∈ table ++ later, r.1 ∈ placeholders)
    (hclear : ¬ ['$', '{'] <:+: substitute (table ++ later) template) :
    replaceAll table template = substitute table template := by
  obtain ⟨its, rfl, hfits⟩ := exists_items htemplate
  have hfirst : ∀ r ∈ table, r.1 ∈ placeholders := fun r hr => htable r (List.mem_append_left _ hr)
  rw [Substitution.substitute_spell placeholders_marked htable hfits] at hclear
  rw [replaceAll_eq_foldl,
    Substitution.foldl_substitute placeholders_marked hfirst hfits.holes hclear,
    Substitution.substitute_spell placeholders_marked hfirst hfits]

end Stages

/-- A template is rendered by simultaneous substitution: there is a text, before the comparison with
the stamp it is what one pass puts down, and so is every stage before for the placeholders so far. -/
structure RendersAtOnce (template : Text) (count : ℕ) (stamp backend reading kind : Text) : Prop where
  renders : (renderTemplate template count stamp backend reading kind).isSome
  atOnce : replaceAll (templateReplacements count stamp backend reading kind) template =
    substitute (templateReplacements count stamp backend reading kind) template
  stages : ∀ n, replaceAll ((templateReplacements count stamp backend reading kind).take n) template =
    substitute ((templateReplacements count stamp backend reading kind).take n) template

/-- **When rendering is simultaneous substitution.**  Take the characters of an accepted template and
the values of its placeholders, in order.  The template is rendered by simultaneous substitution exactly
when none of these pieces has a `$` before an opening brace, and no piece that ends with `$` is followed,
empty ones aside, by one that starts with an opening brace. -/
theorem render_template_iff {template : Text} (h : validateTemplate template = .ok ()) (count : ℕ)
    (stamp backend reading kind : Text) :
    RendersAtOnce template count stamp backend reading kind ↔
      Clear '$' '{' (pieces (templateReplacements count stamp backend reading kind) template) := by
  have htemplate := (validateTemplate_eq_ok_iff template).1 h
  have htable : ∀ r ∈ templateReplacements count stamp backend reading kind, r.1 ∈ placeholders :=
    fun r => mem_placeholders
  rw [← Substitution.not_infix_flatten_iff]
  constructor
  · intro hat
    have hsome := hat.renders
    rwa [renderTemplate_isSome_iff, hat.atOnce] at hsome
  · intro hclear
    have hstages : ∀ n,
        replaceAll ((templateReplacements count stamp backend reading kind).take n) template =
          substitute ((templateReplacements count stamp backend reading kind).take n) template := by
      intro n
      have happend := List.take_append_drop n (templateReplacements count stamp backend reading kind)
      exact replaceAll_eq_substitute htemplate (by rwa [happend]) (by rwa [happend])
    have hall := hstages (templateReplacements count stamp backend reading kind).length
    rw [List.take_length] at hall
    refine ⟨?_, hall, hstages⟩
    rw [renderTemplate_isSome_iff, hall]
    exact hclear

/-- Two placeholders with a `$` before one of them, and a stamp with braces. -/
theorem render_template_braces :
    RendersAtOnce "$$\x7bcount\x7d \x7b$\x7bstamp\x7d".toList 12 "\x7boo\x7d$".toList
      "morphological_reading".toList [] "send_message".toList :=
  (render_template_iff (by decide) 12 "\x7boo\x7d$".toList "morphological_reading".toList []
    "send_message".toList).2 (by decide)

/-- The canonical configuration with a `$` as the stamp and a template that writes it before braces. -/
def dollarConfig : StartupConfig ℚ :=
  { canonicalStartupConfig ℚ with
    bot := { canonicalBotPolicyConfig with
      stampText := "$".toList
      sendTemplate := "$\x7bstamp\x7d\x7baction_kind\x7d".toList } }

/-- A configuration that is accepted, and a stamp that becomes a placeholder with the text behind it;
and a stamp that sanitizing turns into an opening marker, so that nothing is rendered. -/
theorem render_template_rereads :
    (validateConfig dollarConfig = .ok () ∧
      renderTemplate dollarConfig.bot.sendTemplate 2 dollarConfig.bot.stampText
        "morphological_reading".toList [] "send_message".toList = some "send_message".toList ∧
      substitute (templateReplacements 2 dollarConfig.bot.stampText
        "morphological_reading".toList [] "send_message".toList) dollarConfig.bot.sendTemplate =
          "$\x7baction_kind\x7d".toList ∧
      ¬ RendersAtOnce dollarConfig.bot.sendTemplate 2 dollarConfig.bot.stampText
        "morphological_reading".toList [] "send_message".toList) ∧
    validateTemplate stampTemplate = .ok () ∧
      renderTemplate stampTemplate 2 "$\x7d\x7b".toList "morphological_reading".toList []
        "send_message".toList = none := by
  have hrender : renderTemplate dollarConfig.bot.sendTemplate 2 dollarConfig.bot.stampText
      "morphological_reading".toList [] "send_message".toList = some "send_message".toList := by decide
  have hpass : substitute (templateReplacements 2 dollarConfig.bot.stampText
      "morphological_reading".toList [] "send_message".toList) dollarConfig.bot.sendTemplate =
        "$\x7baction_kind\x7d".toList := by decide
  refine ⟨⟨by decide, hrender, hpass, ?_⟩, by decide, by decide⟩
  intro hat
  have hsame := hat.atOnce
  rw [hpass] at hsame
  revert hsame
  decide

end OoBot
