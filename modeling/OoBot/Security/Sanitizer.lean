import OoBot.App.AnalyzeMessage
import OoBot.Lib.Erasure

/-!
# What `sanitize_template_value` leaves

The function stands both in `app/analyze_message.rs` and in `security/response_compiler.rs`, with the
same body.  It takes out the opening marker, the closing brace and the control characters other than a
newline and a tab, each of them once and in this order.  In effect that is a single pass
(`sanitizeTemplateValue_eq_erase`), and what is taken out may have stood between the two characters of
another marker: then the marker is there in the result (`unsanitized_values`).
-/

namespace OoBot

/-- What `sanitize_template_value` takes out. -/
def templateRule : Erasure.Rule Char where
  first := '$'
  second := '{'
  drops ch := ch == '}' || (isControl ch && !(ch == '\n' || ch == '\t'))
  first_ne_second := by decide
  keeps_first := by decide
  keeps_second := by decide

/-! ### One pass -/

theorem replace_singleton_nil (c : Char) (s : Text) : replace s [c] [] = s.filter fun d => d != c := by
  unfold replace
  induction s with
  | nil => rfl
  | cons d s ih =>
    rw [replaceFrom, List.filter_cons]
    by_cases h : d = c
    · subst h
      rw [if_pos (List.cons_prefix_cons.2 ⟨rfl, List.nil_prefix⟩), if_neg (by simp)]
      exact ih
    · rw [if_neg fun hpre => h (List.cons_prefix_cons.1 hpre).1.symm, if_pos (by simpa using h), ih]

/-- The last two passes drop the letters of the rule. -/
theorem sanitizeTemplateValue_eq_filter (value : Text) :
    sanitizeTemplateValue value =
      (replace value [templateRule.first, templateRule.second] []).filter fun ch =>
        !templateRule.drops ch := by
  unfold sanitizeTemplateValue
  rw [replace_singleton_nil, List.filter_filter]
  refine congrArg (fun p => List.filter p _) (funext fun ch => ?_)
  show ((!isControl ch || ch == '\n' || ch == '\t') && !(ch == '}')) =
    !(ch == '}' || (isControl ch && !(ch == '\n' || ch == '\t')))
  rw [Bool.not_or, Bool.not_and, Bool.not_not, Bool.and_comm, Bool.or_assoc]

/-- **`sanitize_template_value` is one pass**: it takes out markers and dropped letters from left to
right. -/
theorem sanitizeTemplateValue_eq_erase (value : Text) :
    sanitizeTemplateValue value = templateRule.erase value := by
  rw [sanitizeTemplateValue_eq_filter]
  unfold replace
  induction value using templateRule.induction with
  | nil => rfl
  | marker l ih =>
    rw [replaceFrom, if_pos ⟨l, rfl⟩, templateRule.erase_marker]
    exact ih
  | drop c l hc ih =>
    have hpre : ¬ [templateRule.first, templateRule.second] <+: c :: l :=
      fun h => templateRule.ne_first_of_drops hc (List.cons_prefix_cons.1 h).1
    rw [replaceFrom, if_neg hpre, List.filter_cons, hc, templateRule.erase_drop hc]
    exact ih
  | keep c l hc hl ih =>
    have hpre : ¬ [templateRule.first, templateRule.second] <+: c :: l := by
      intro h
      obtain ⟨hfirst, hsecond⟩ := List.cons_prefix_cons.1 h
      exact hl hfirst.symm hsecond
    rw [replaceFrom, if_neg hpre, List.filter_cons, hc, templateRule.erase_keep hc hl]
    exact congrArg (c :: ·) ih

/-! ### What is left -/

/-- The two characters of an opening marker stand in the value with nothing between them but what is
taken out, and something is. -/
def SplitMarker (value : Text) : Prop := templateRule.Split value

/-- A sanitized value holds no opening marker, no closing brace and no control character but a newline or a
tab, and sanitizing it again changes nothing. -/
structure Sanitized (value : Text) : Prop where
  marker : ¬ ['$', '{'] <:+: sanitizeTemplateValue value
  brace : '}' ∉ sanitizeTemplateValue value
  control : ∀ ch ∈ sanitizeTemplateValue value, isControl ch = true → ch = '\n' ∨ ch = '\t'
  idempotent : sanitizeTemplateValue (sanitizeTemplateValue value) = sanitizeTemplateValue value

theorem drops_of_mem_sanitize {value : Text} {ch : Char} (h : ch ∈ sanitizeTemplateValue value) :
    templateRule.drops ch = false := by
  rw [sanitizeTemplateValue_eq_erase] at h
  exact templateRule.drops_of_mem_erase h

/-- No value keeps a closing brace. -/
theorem brace_not_mem_sanitize (value : Text) : '}' ∉ sanitizeTemplateValue value := by
  intro h
  cases drops_of_mem_sanitize h

/-- No value keeps a control character other than a newline or a tab. -/
theorem control_of_mem_sanitize {value : Text} {ch : Char} (h : ch ∈ sanitizeTemplateValue value)
    (hcontrol : isControl ch = true) : ch = '\n' ∨ ch = '\t' := by
  have hdrops : (ch == '}' || (isControl ch && !(ch == '\n' || ch == '\t'))) = false :=
    drops_of_mem_sanitize h
  rw [hcontrol, Bool.true_and, Bool.or_eq_false_iff, Bool.not_eq_false', Bool.or_eq_true] at hdrops
  exact hdrops.2.imp beq_iff_eq.1 beq_iff_eq.1

/-- **When a value is sanitized.**  The result has no opening marker, no closing brace and no control
character but newlines and tabs, and is left alone from then on, just when no marker is split by what
is taken out. -/
theorem sanitized_iff (value : Text) : Sanitized value ↔ ¬ SplitMarker value := by
  have herase := sanitizeTemplateValue_eq_erase value
  constructor
  · intro h hsplit
    refine h.marker ?_
    rw [herase]
    exact (templateRule.infix_erase_iff value).2 hsplit
  · intro hsplit
    refine ⟨fun hinfix => hsplit ?_, brace_not_mem_sanitize value,
      fun _ => control_of_mem_sanitize, ?_⟩
    · rw [herase] at hinfix
      exact (templateRule.infix_erase_iff value).1 hinfix
    · rw [sanitizeTemplateValue_eq_erase (sanitizeTemplateValue value), herase]
      exact (templateRule.erase_erase_iff value).2 hsplit

/-- A marker inside a marker, a closing brace inside a marker, and a control character inside one: in
each case the result is an opening marker, and the second time it is empty. -/
theorem unsanitized_values :
    (sanitizeTemplateValue ['$', '$', '{', '{'] = ['$', '{'] ∧
      sanitizeTemplateValue ['$', '}', '{'] = ['$', '{'] ∧
      sanitizeTemplateValue ['$', '\x00', '{'] = ['$', '{']) ∧
    sanitizeTemplateValue ['$', '{'] = [] ∧
    ¬ Sanitized ['$', '$', '{', '{'] ∧ ¬ Sanitized ['$', '}', '{'] ∧ ¬ Sanitized ['$', '\x00', '{'] := by
  have hmarker : sanitizeTemplateValue ['$', '$', '{', '{'] = ['$', '{'] := by decide
  have hbrace : sanitizeTemplateValue ['$', '}', '{'] = ['$', '{'] := by decide
  have hcontrol : sanitizeTemplateValue ['$', '\x00', '{'] = ['$', '{'] := by decide
  refine ⟨⟨hmarker, hbrace, hcontrol⟩, by decide, fun h => h.marker ?_, fun h => h.marker ?_,
    fun h => h.marker ?_⟩
  · rw [hmarker]
  · rw [hbrace]
  · rw [hcontrol]

end OoBot
