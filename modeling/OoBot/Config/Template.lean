import OoBot.Config
import OoBot.Domain.LiteralCount

/-!
# `validate_template` of `src/config.rs`

* The code moves a cursor through the bytes of the template and cuts slices at it.  `validateLoop` is
  that loop, with the panics of its slices; it ends on every template and agrees with
  `validateTemplate`, which works on characters (`validateLoop_utf8`).
* A template is accepted exactly when every `$` before a brace opens a placeholder
  (`validate_template_ok_iff`).
-/

namespace OoBot

/-! ### The loop on bytes -/

/-- `&s[start..stop]`, which panics inside a character, behind the end and when `stop` lies before
`start`. -/
def slice (bytes : List UInt8) (start stop : ℕ) : Option (List UInt8) :=
  if start ≤ stop ∧ isCharBoundary bytes start ∧ isCharBoundary bytes stop then
    some ((bytes.take stop).drop start)
  else none

/-- The loop of `validate_template` on `fuel` rounds at most; there is no result when a slice panics or
the rounds run out. -/
def validateLoop (template : List UInt8) : ℕ → ℕ → Option (Except ValidateError Unit)
  | 0, _ => none
  | fuel + 1, cursor =>
      match sliceFrom template cursor with
      | none => none
      | some rest =>
          match Scan.findSub (utf8 ['$', '{']) rest with
          | none => some (.ok ())
          | some start =>
              let markerStart := cursor + start
              let afterOpen := markerStart + 2
              match sliceFrom template afterOpen with
              | none => none
              | some rest =>
                  match Scan.findSub (utf8 ['}']) rest with
                  | none => some (.error ⟨"template placeholder is not closed".toList⟩)
                  | some endRel =>
                      let stop := afterOpen + endRel
                      match (slice template afterOpen stop).bind fromUtf8 with
                      | none => none
                      | some key =>
                          if isAllowedPlaceholder key then validateLoop template fuel (stop + 1)
                          else
                            some (.error ⟨"template contains undefined placeholder: ".toList ++ key⟩)

theorem isCharBoundary_utf8 (before rest : Text) :
    isCharBoundary (utf8 (before ++ rest)) (utf8Len before) = true := by
  have h := sliceFrom_utf8 before rest
  unfold sliceFrom at h
  split_ifs at h with hboundary
  exact hboundary

/-- A slice between two cuts of the characters. -/
theorem slice_utf8 (before key rest : Text) :
    slice (utf8 (before ++ key ++ rest)) (utf8Len before) (utf8Len (before ++ key)) =
      some (utf8 key) := by
  have hstart : isCharBoundary (utf8 (before ++ key ++ rest)) (utf8Len before) = true := by
    rw [List.append_assoc]
    exact isCharBoundary_utf8 before _
  have hle : utf8Len before ≤ utf8Len (before ++ key) := by
    rw [utf8Len_append]
    exact Nat.le_add_right _ _
  rw [slice, if_pos ⟨hle, hstart, isCharBoundary_utf8 _ _⟩, utf8_append (before ++ key),
    ← utf8_length (before ++ key), List.take_left, utf8_append, ← utf8_length, List.drop_left]

/-- A round of the loop, from a cursor between two characters. -/
theorem validateLoop_succ (fuel : ℕ) (before rest : Text) :
    validateLoop (utf8 (before ++ rest)) (fuel + 1) (utf8Len before) =
      match Scan.findSub ['$', '{'] rest with
      | none => some (.ok ())
      | some start =>
          let afterOpen := rest.drop (start + 2)
          match Scan.findSub ['}'] afterOpen with
          | none => some (.error ⟨"template placeholder is not closed".toList⟩)
          | some endRel =>
              let key := afterOpen.take endRel
              if isAllowedPlaceholder key then
                validateLoop (utf8 (before ++ rest)) fuel
                  (utf8Len (before ++ rest.take (start + 2 + (endRel + 1))))
              else some (.error ⟨"template contains undefined placeholder: ".toList ++ key⟩) := by
  rw [validateLoop, sliceFrom_utf8]
  simp only [@findSub_utf8 ['$', '{'] (by simp)]
  cases hopen : Scan.findSub ['$', '{'] rest with
  | none => rfl
  | some start =>
    simp only [Option.map_some]
    -- the cursor behind the opening marker
    have htake : rest.take (start + 2) = rest.take start ++ ['$', '{'] := Scan.take_of_findSub hopen
    have hafter : utf8Len before + utf8Len (rest.take start) + 2 =
        utf8Len (before ++ rest.take (start + 2)) := by
      rw [htake, utf8Len_append, utf8Len_append]
      rfl
    have hsplit : before ++ rest = (before ++ rest.take (start + 2)) ++ rest.drop (start + 2) := by
      rw [List.append_assoc, List.take_append_drop]
    have hslice := sliceFrom_utf8 (before ++ rest.take (start + 2)) (rest.drop (start + 2))
    rw [← hsplit] at hslice
    rw [hafter, hslice]
    simp only [@findSub_utf8 ['}'] (by simp)]
    cases hclose : Scan.findSub ['}'] (rest.drop (start + 2)) with
    | none => rfl
    | some endRel =>
      simp only [Option.map_some]
      -- the key between the markers
      have hkey := slice_utf8 (before ++ rest.take (start + 2))
        ((rest.drop (start + 2)).take endRel) ((rest.drop (start + 2)).drop endRel)
      have hsplit' : before ++ rest.take (start + 2) ++ (rest.drop (start + 2)).take endRel ++
          (rest.drop (start + 2)).drop endRel = before ++ rest := by
        rw [List.append_assoc, List.take_append_drop, ← hsplit]
      have hbrace : (rest.drop (start + 2)).take (endRel + 1) =
          (rest.drop (start + 2)).take endRel ++ ['}'] := Scan.take_of_findSub hclose
      have hcursor : utf8Len (before ++ rest.take (start + 2)) +
            utf8Len ((rest.drop (start + 2)).take endRel) + 1 =
          utf8Len (before ++ rest.take (start + 2 + (endRel + 1))) := by
        have hsum : rest.take (start + 2 + (endRel + 1)) =
            rest.take (start + 2) ++ (rest.drop (start + 2)).take (endRel + 1) := List.take_add
        rw [hsum, hbrace, ← List.append_assoc, ← List.append_assoc, utf8Len_append _ ['}'],
          utf8Len_append _ ((rest.drop (start + 2)).take endRel)]
        rfl
      rw [hsplit', utf8Len_append _ ((rest.drop (start + 2)).take endRel)] at hkey
      rw [hkey, hcursor, Option.bind_some, fromUtf8_utf8]

/-- From a cursor between two characters, with enough rounds, the loop answers what `validateTemplate`
answers on the rest. -/
theorem validateLoop_utf8 (fuel n : ℕ) (before rest : Text) (hfuel : rest.length < fuel)
    (hn : rest.length ≤ n) :
    validateLoop (utf8 (before ++ rest)) fuel (utf8Len before) =
      some (validateTemplateFrom n rest) := by
  induction fuel generalizing n before rest with
  | zero => cases hfuel
  | succ fuel ih =>
    rw [validateLoop_succ]
    cases n with
    | zero =>
      have hnil : rest = [] := List.eq_nil_of_length_eq_zero (Nat.le_zero.1 hn)
      rw [hnil]
      rfl
    | succ n =>
      rw [validateTemplateFrom]
      cases hopen : Scan.findSub ['$', '{'] rest with
      | none => rfl
      | some start =>
        simp only
        cases hclose : Scan.findSub ['}'] (rest.drop (start + 2)) with
        | none => rfl
        | some endRel =>
          simp only
          split_ifs with hkey
          · -- the cursor has moved behind the placeholder
            have hlen : (rest.drop (start + 2 + (endRel + 1))).length + 3 ≤ rest.length := by
              have := (Scan.prefix_of_findSub hclose).length_le
              simp only [List.length_drop, List.length_cons, List.length_nil] at this ⊢
              omega
            have hsplit : before ++ rest = (before ++ rest.take (start + 2 + (endRel + 1))) ++
                rest.drop (start + 2 + (endRel + 1)) := by
              rw [List.append_assoc, List.take_append_drop]
            rw [List.drop_drop, hsplit]
            exact ih n _ _ (by omega) (by omega)
          · rfl

/-! ### What is accepted -/

/-- The names that a placeholder may have. -/
def placeholderNames : List Text :=
  ["count".toList, "stamp".toList, "matched_backend".toList, "matched_reading".toList,
    "action_kind".toList]

theorem isAllowedPlaceholder_iff (value : Text) :
    isAllowedPlaceholder value = true ↔ value ∈ placeholderNames :=
  List.contains_iff_mem

/-- Every `$` before a brace is followed by the brace, an allowed name and the closing brace. -/
def WellMarked (s : Text) : Prop :=
  ∀ i, ['$', '{'] <+: s.drop i → ∃ name ∈ placeholderNames, name ++ ['}'] <+: s.drop (i + 2)

theorem placeholderNames_plain : ∀ name ∈ placeholderNames, '$' ∉ name ∧ '}' ∉ name := by decide

/-- The placeholder that follows an opening marker reaches up to the first closing brace. -/
theorem findSub_close {name s : Text} (hname : name ∈ placeholderNames)
    (h : name ++ ['}'] <+: s) : Scan.findSub ['}'] s = some name.length := by
  obtain ⟨rest, rfl⟩ := h
  rw [List.append_assoc, Scan.findSub_append_of_not_match,
    Scan.findSub_of_match (List.prefix_append ['}'] rest), Option.map_some, Nat.zero_add]
  intro i hi hpre
  rw [List.drop_eq_getElem_cons hi, List.cons_append, List.cons_prefix_cons] at hpre
  refine (placeholderNames_plain name hname).2 ?_
  rw [hpre.1]
  exact List.getElem_mem _

/-- No marker starts inside a placeholder: neither the brace nor the name nor the closing brace is a
`$`. -/
theorem not_marker_inside {name : Text} (hname : name ∈ placeholderNames) (rest : Text) {j : ℕ}
    (hj : j < name.length + 2) : ¬ ['$', '{'] <+: ('{' :: (name ++ ['}'] ++ rest)).drop j := by
  intro h
  have hlt : j < ('{' :: (name ++ ['}'])).length := by
    simp only [List.length_cons, List.length_append, List.length_nil]
    omega
  have hmem : '$' ∈ '{' :: (name ++ ['}']) := by
    rw [← List.cons_append, List.drop_append_of_le_length hlt.le, List.drop_eq_getElem_cons hlt,
      List.cons_append, List.cons_prefix_cons] at h
    rw [h.1]
    exact List.getElem_mem _
  have hplain := (placeholderNames_plain name hname).1
  simp [hplain] at hmem

/-- Behind a placeholder a text is well marked when it is so from the placeholder on. -/
theorem wellMarked_placeholder_iff {before name rest : Text} (hname : name ∈ placeholderNames)
    (hbefore : ∀ i < before.length,
      ¬ ['$', '{'] <+: (before ++ (['$', '{'] ++ (name ++ ['}'] ++ rest))).drop i) :
    WellMarked (before ++ (['$', '{'] ++ (name ++ ['}'] ++ rest))) ↔ WellMarked rest := by
  have hdrop : ∀ i, (before ++ (['$', '{'] ++ (name ++ ['}'] ++ rest))).drop
      (before.length + (name.length + 3) + i) = rest.drop i := by
    intro i
    have hlen : before.length + (name.length + 3) + i =
        (before ++ (['$', '{'] ++ (name ++ ['}']))).length + i := by
      simp only [List.length_append, List.length_cons, List.length_nil]
      omega
    have hassoc : before ++ (['$', '{'] ++ (name ++ ['}'] ++ rest)) =
        (before ++ (['$', '{'] ++ (name ++ ['}']))) ++ rest := by
      simp only [List.append_assoc]
    rw [hlen, hassoc, ← List.drop_drop, List.drop_left]
  constructor
  · intro h i hi
    rw [← hdrop] at hi
    have := h _ hi
    rwa [Nat.add_assoc _ i 2, hdrop] at this
  · intro h i hi
    by_cases hlow : i < before.length
    · exact absurd hi (hbefore i hlow)
    · obtain ⟨j, rfl⟩ : ∃ j, i = before.length + j := ⟨i - before.length, by omega⟩
      by_cases hin : j < name.length + 3
      · cases j with
        | zero =>
          refine ⟨name, hname, ?_⟩
          rw [Nat.add_zero, ← List.drop_drop, List.drop_left]
          exact List.prefix_append _ _
        | succ j =>
          rw [← List.drop_drop, List.drop_left, List.cons_append, List.drop_succ_cons,
            List.cons_append, List.nil_append] at hi
          exact absurd hi (not_marker_inside hname rest (by omega))
      · obtain ⟨k, rfl⟩ : ∃ k, j = name.length + 3 + k := ⟨j - (name.length + 3), by omega⟩
        rw [← Nat.add_assoc] at hi ⊢
        rw [hdrop] at hi
        rw [Nat.add_assoc _ k 2, hdrop]
        exact h k hi

/-- With a round for every character the check accepts the well marked texts. -/
theorem validateTemplateFrom_eq_ok_iff (n : ℕ) (s : Text) (hn : s.length ≤ n) :
    validateTemplateFrom n s = .ok () ↔ WellMarked s := by
  induction n generalizing s with
  | zero =>
    have hnil : s = [] := List.eq_nil_of_length_eq_zero (Nat.le_zero.1 hn)
    subst hnil
    exact ⟨fun _ i hi => by simp at hi, fun _ => rfl⟩
  | succ n ih =>
    rw [validateTemplateFrom]
    cases hopen : Scan.findSub ['$', '{'] s with
    | none =>
      have hnot : ¬ ['$', '{'] <:+: s := by
        rw [← Scan.findSub_isSome_iff, hopen]
        exact Bool.false_ne_true
      exact ⟨fun _ i hi => absurd (hi.isInfix.trans (List.drop_suffix i s).isInfix) hnot,
        fun _ => rfl⟩
    | some start =>
      have hmark := Scan.prefix_of_findSub hopen
      simp only
      cases hclose : Scan.findSub ['}'] (s.drop (start + 2)) with
      | none =>
        constructor
        · intro h
          cases h
        · intro h
          obtain ⟨name, hname, hpre⟩ := h start hmark
          rw [findSub_close hname hpre] at hclose
          cases hclose
      | some endRel =>
        simp only
        split_ifs with hallowed
        · rw [isAllowedPlaceholder_iff] at hallowed
          rw [List.drop_drop, ih _ (by simp only [List.length_drop]; omega)]
          -- the text falls apart at the placeholder
          have hparts : s = s.take start ++ (['$', '{'] ++
              ((s.drop (start + 2)).take endRel ++ ['}'] ++
                s.drop (start + 2 + (endRel + 1)))) := by
            have hrest := Scan.split_of_findSub hclose
            rw [List.drop_drop] at hrest
            refine (Scan.split_of_findSub hopen).trans ?_
            rw [List.append_assoc]
            exact congrArg (fun tail => s.take start ++ (['$', '{'] ++ tail)) hrest
          have hlen := Scan.length_take_of_findSub (by simp) hopen
          conv_rhs => rw [hparts]
          refine (wellMarked_placeholder_iff hallowed ?_).symm
          rw [← hparts, hlen]
          exact fun i hi => Scan.not_prefix_of_findSub hopen hi
        · constructor
          · intro h
            cases h
          · intro h
            obtain ⟨name, hname, hpre⟩ := h start hmark
            rw [findSub_close hname hpre] at hclose
            injection hclose with hclose
            rw [isAllowedPlaceholder_iff, ← hclose] at hallowed
            refine absurd ?_ hallowed
            rwa [← List.prefix_iff_eq_take.1 ((List.prefix_append name ['}']).trans hpre)]

theorem validateTemplate_eq_ok_iff (template : Text) :
    validateTemplate template = .ok () ↔ WellMarked template :=
  validateTemplateFrom_eq_ok_iff _ _ (Nat.le_refl _)

/-- **What `validate_template` accepts.**  With a round for every byte and one more the loop ends, no
slice panics, and the result is `Ok` exactly when every `$` before an opening brace starts a
placeholder with an allowed name. -/
theorem validate_template_ok_iff (template : Text) :
    ∃ result, (∀ fuel, utf8Len template < fuel →
        validateLoop (utf8 template) fuel 0 = some result) ∧
      (result = .ok () ↔ ∀ before rest, template = before ++ ['$', '{'] ++ rest →
        ∃ name ∈ placeholderNames, name ++ ['}'] <+: rest) := by
  refine ⟨validateTemplate template, fun fuel hfuel => ?_, ?_⟩
  · have hchars := length_le_utf8Len template
    exact validateLoop_utf8 fuel template.length [] template (by omega) (Nat.le_refl _)
  · rw [validateTemplate_eq_ok_iff]
    constructor
    · rintro h before rest rfl
      have hdrop : ∀ i, (before ++ ['$', '{'] ++ rest).drop (before.length + i) =
          (['$', '{'] ++ rest).drop i := by
        intro i
        rw [List.append_assoc, ← List.drop_drop, List.drop_left]
      have := h before.length (by
        rw [← Nat.add_zero before.length, hdrop]
        exact List.prefix_append _ _)
      rwa [hdrop] at this
    · intro h i hi
      obtain ⟨rest, hrest⟩ := hi
      have hrest' : rest = template.drop (i + 2) := by
        rw [← List.drop_drop, ← hrest]
        rfl
      rw [← hrest']
      refine h (template.take i) rest ?_
      rw [List.append_assoc, hrest, List.take_append_drop]

example : validateLoop (utf8 "é$$\x7bcount\x7d\x7b$\x7bstamp\x7d".toList) 22 0 = some (.ok ()) := by
  decide

example : validateTemplate "$\x7bcount$\x7bstamp\x7d".toList =
    .error ⟨"template contains undefined placeholder: count$\x7bstamp".toList⟩ := by decide

end OoBot
