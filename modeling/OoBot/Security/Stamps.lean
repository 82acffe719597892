import OoBot.Security.ResponseCompiler
import OoBot.Security.Sanitizer

/-!
# Copies of a stamp

The template of a configuration may be nothing but the stamp.  Then both renderers repeat it, and the
text is `joinRepeated`: what a cut leaves of that is whole copies only at certain lengths
(`take_joinRepeated_eq_iff`).
-/

namespace OoBot

/-! ### Clean stamps -/

/-- What sanitizing leaves alone has no placeholder. -/
theorem not_infix_of_sanitize {value : Text} (h : sanitizeTemplateValue value = value) :
    ¬ ['$', '{'] <:+: value := by
  rw [sanitizeTemplateValue_eq_erase] at h
  exact ((templateRule.erase_eq_self_iff value).1 h).1

/-! ### Blank texts -/

theorem isBlank_iff (s : Text) : isBlank s = true ↔ ∀ c ∈ s, isWhitespace c = true := by
  rw [isBlank, trim, List.isEmpty_iff, List.rdropWhile_eq_nil_iff]
  constructor
  · intro h
    rw [← List.dropWhile_eq_nil_iff]
    by_contra hne
    obtain ⟨c, l, hcl⟩ := List.exists_cons_of_ne_nil hne
    have hhead : isWhitespace c = true := h c (by rw [hcl]; exact List.mem_cons_self)
    have hnot := List.head_dropWhile_not isWhitespace hne
    simp only [hcl, List.head_cons] at hnot
    rw [hhead] at hnot
    cases hnot
  · intro h c hc
    exact h c ((List.dropWhile_suffix _).subset hc)

/-! ### Copies of a stamp -/

/-- Fewer copies are a prefix of more. -/
theorem prefix_joinRepeated (stamp : Text) {k n : ℕ} (hk : 0 < k) (h : k ≤ n) :
    joinRepeated stamp k <+: joinRepeated stamp n := by
  induction k generalizing n with
  | zero => omega
  | succ k ih =>
    obtain ⟨n, rfl⟩ : ∃ m, n = m + 1 := ⟨n - 1, by omega⟩
    cases k with
    | zero =>
      rw [Nat.zero_add, joinRepeated_one]
      cases n with
      | zero => rw [Nat.zero_add, joinRepeated_one]
      | succ n => exact List.prefix_append _ _
    | succ k =>
      obtain ⟨n, rfl⟩ : ∃ m, n = m + 1 := ⟨n - 1, by omega⟩
      rw [joinRepeated_succ, joinRepeated_succ, List.prefix_append_right_inj, List.cons_prefix_cons]
      exact ⟨rfl, ih k.succ_pos (by omega)⟩

theorem joinRepeated_length_of_pos (stamp : Text) {n : ℕ} (h : 0 < n) :
    (joinRepeated stamp n).length + 1 = n * (stamp.length + 1) := by
  obtain ⟨n, rfl⟩ : ∃ m, n = m + 1 := ⟨n - 1, by omega⟩
  exact joinRepeated_length stamp n

/-- A cut through copies of a stamp leaves whole copies exactly when their lengths say so. -/
theorem take_joinRepeated_eq_iff (stamp : Text) {n k maxSendChars : ℕ} (hn : 0 < n) (hk : 0 < k) :
    (joinRepeated stamp n).take maxSendChars = joinRepeated stamp k ↔
      min (maxSendChars + 1) (n * (stamp.length + 1)) = k * (stamp.length + 1) := by
  have hlenn := joinRepeated_length_of_pos stamp hn
  have hlenk := joinRepeated_length_of_pos stamp hk
  constructor
  · intro h
    have hlen := congrArg List.length h
    rw [List.length_take] at hlen
    omega
  · intro h
    have hle : k ≤ n := by
      refine Nat.le_of_mul_le_mul_right ?_ stamp.length.succ_pos
      rw [← h]
      exact Nat.min_le_right _ _
    have hpre := List.prefix_iff_eq_take.1 (prefix_joinRepeated stamp hk hle)
    rw [hpre, List.take_eq_take_iff]
    omega

/-- The copies that the two caps leave, cut at the length, against those that the length leaves. -/
theorem whole_copies_iff {unit total maxSendChars room : ℕ} (hunit : 0 < unit)
    (hroom : room = (maxSendChars + 1) / unit) :
    min (maxSendChars + 1) (min total 255 * unit) = min total room * unit ↔
      (min total 255 ≤ room ∧ (total ≤ 255 ∨ room = 255)) ∨
        (room < min total 255 ∧ unit ∣ maxSendChars + 1) := by
  have hfit : ∀ n, n * unit ≤ maxSendChars + 1 ↔ n ≤ room := by
    intro n
    rw [hroom, Nat.le_div_iff_mul_le hunit]
  by_cases h : min total 255 ≤ room
  · rw [Nat.min_eq_right ((hfit _).2 h), Nat.mul_left_inj (Nat.ne_of_gt hunit)]
    omega
  · have hcut : maxSendChars + 1 < min total 255 * unit := by
      rw [← Nat.not_le, hfit]
      exact h
    have hmin : min total room = room := by omega
    rw [Nat.min_eq_left hcut.le, hmin]
    constructor
    · intro heq
      exact Or.inr ⟨by omega, ⟨room, by rw [heq, Nat.mul_comm]⟩⟩
    · rintro (⟨hle, -⟩ | ⟨-, hdvd⟩)
      · exact absurd hle h
      · rw [hroom, Nat.div_mul_cancel hdvd]

theorem mem_joinRepeated {stamp : Text} {n : ℕ} {c : Char} (h : c ∈ joinRepeated stamp n) :
    c ∈ stamp ∨ c = ' ' := by
  induction n with
  | zero => cases h
  | succ n ih =>
    cases n with
    | zero =>
      rw [Nat.zero_add, joinRepeated_one] at h
      exact Or.inl h
    | succ n =>
      rw [joinRepeated_succ, List.mem_append, List.mem_cons] at h
      rcases h with h | h | h
      · exact Or.inl h
      · exact Or.inr h
      · exact ih h

/-- A text of blanks and of what the stamp shows, with a stamp in front, is as visible as the stamp. -/
theorem isBlank_of_copies {stamp text : Text} (hpre : stamp <+: text)
    (hmem : ∀ c ∈ text, c ∈ stamp ∨ c = ' ') : isBlank text = isBlank stamp := by
  rw [Bool.eq_iff_iff, isBlank_iff, isBlank_iff]
  constructor
  · intro h c hc
    exact h c (hpre.subset hc)
  · intro h c hc
    rcases hmem c hc with hc | rfl
    · exact h c hc
    · decide

theorem isBlank_joinRepeated (stamp : Text) {n : ℕ} (hn : 0 < n) :
    isBlank (joinRepeated stamp n) = isBlank stamp := by
  have hpre := prefix_joinRepeated stamp Nat.one_pos hn
  rw [joinRepeated_one] at hpre
  exact isBlank_of_copies hpre fun c => mem_joinRepeated

/-- So are copies that are cut behind the first. -/
theorem isBlank_take_joinRepeated (stamp : Text) {n maxSendChars : ℕ} (hn : 0 < n)
    (hlen : stamp.length ≤ maxSendChars) :
    isBlank ((joinRepeated stamp n).take maxSendChars) = isBlank stamp := by
  have hpre := prefix_joinRepeated stamp Nat.one_pos hn
  rw [joinRepeated_one] at hpre
  exact isBlank_of_copies (List.prefix_take_iff.2 ⟨hpre, hlen⟩) fun c hc =>
    mem_joinRepeated (List.take_subset _ _ hc)

/-! ### Rendering -/

/-- The template that is nothing but the stamp. -/
def stampTemplate : Text := "$\x7bstamp\x7d".toList

/-- It renders to the stamp, whatever the other placeholders stand for. -/
theorem stamp_replace {stamp : Text} (h : sanitizeTemplateValue stamp = stamp)
    (count backend reading kind : Text) :
    ([("$\x7bcount\x7d".toList, count), ("$\x7bstamp\x7d".toList, sanitizeTemplateValue stamp),
      ("$\x7bmatched_backend\x7d".toList, backend), ("$\x7bmatched_reading\x7d".toList, reading),
      ("$\x7baction_kind\x7d".toList, kind)] : List (Text × Text)).foldl
      (fun output r => replace output r.1 r.2) stampTemplate = stamp := by
  have hplain : ∀ needle value : Text, ['$', '{'] <+: needle → replace stamp needle value = stamp := by
    intro needle value hopen
    refine replace_of_not_infix value fun hinfix => not_infix_of_sanitize h ?_
    exact hopen.isInfix.trans hinfix
  have hstamp : replace (replace stampTemplate "$\x7bcount\x7d".toList count)
      "$\x7bstamp\x7d".toList stamp = stamp ++ [] := rfl
  simp only [List.foldl_cons, List.foldl_nil, h, hstamp, List.append_nil]
  rw [hplain _ _ (by decide), hplain _ _ (by decide), hplain _ _ (by decide)]

theorem contains_of_sanitize {stamp : Text} (h : sanitizeTemplateValue stamp = stamp) :
    contains stamp ['$', '{'] = false :=
  decide_eq_false (not_infix_of_sanitize h)

/-- The renderer of the response compiler repeats the stamp. -/
theorem renderTemplate_stamps {stamp : Text} (h : sanitizeTemplateValue stamp = stamp) (count : ℕ)
    (backend reading kind : Text) :
    renderTemplate stampTemplate count stamp backend reading kind =
      some (joinRepeated stamp count) := by
  have hout := stamp_replace h (sanitizeTemplateValue (natText count)) (sanitizeTemplateValue backend)
    (sanitizeTemplateValue reading) (sanitizeTemplateValue kind)
  unfold renderTemplate templateReplacements
  simp only [hout, contains_of_sanitize h, Bool.false_eq_true, if_false, if_true]
  rfl

/-- The renderer of the pure analyzer repeats the stamp, and cuts nothing off as long as it fits. -/
theorem renderSendTemplate_stamps {config : BotConfig} (htemplate : config.sendTemplate = stampTemplate)
    (h : sanitizeTemplateValue config.stampText = config.stampText) (hne : config.stampText ≠ [])
    {count : ℕ} (hpos : 0 < count)
    (hfit : count ≤ stampRoom config.stampText config.maxSendChars) (report : DetectionReport) :
    renderSendTemplate config count report = some (joinRepeated config.stampText count) := by
  have hout := stamp_replace h (sanitizeTemplateValue (natText count))
    (sanitizeTemplateValue report.matchedBackend)
    (sanitizeTemplateValue (report.matchedReadings.head?.getD []))
    (sanitizeTemplateValue "send_message".toList)
  have htake : (joinRepeated config.stampText count).take config.maxSendChars =
      joinRepeated config.stampText count :=
    List.take_of_length_le (joinRepeated_length_le hfit)
  have hshown : (joinRepeated config.stampText count).isEmpty = false := by
    have hpre := prefix_joinRepeated config.stampText Nat.one_pos hpos
    rw [joinRepeated_one] at hpre
    rw [List.isEmpty_eq_false_iff]
    rintro hnil
    rw [hnil, List.prefix_nil] at hpre
    exact hne hpre
  unfold renderSendTemplate templatePlaceholders
  rw [htemplate]
  simp only [hout, contains_of_sanitize h, if_true, htake, hshown, Bool.false_eq_true, if_false]

end OoBot
