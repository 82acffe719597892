import OoBot.Lib.FirstPrefix
import OoBot.Text.Lines

/-!
# Redaction

`redact_sensitive` of `src/security/diagnostics.rs` passes over the text once for each of five keys,
and cuts each line where the key and an equals sign first end in it.  Every pass reads the lines of
the pass before, with its end trimmed.

All passes together cut a line where the first of the five ends in it (`lineRedacted_spec`), so that
the output depends on what comes before the cut alone (`redaction_noninterfering`).
-/

namespace OoBot

open FirstPrefix

/-- The mark in place of a value. -/
def redactedMark : Text := "<redacted>".toList

/-- A line of `redact_key_value_pair`. -/
def redactLine (key line : Text) : Text :=
  match Scan.findSub (key ++ ['=']) (toAsciiUppercase line) with
  | some pos => line.take (pos + key.length + 1) ++ redactedMark
  | none => line

/-- `redact_key_value_pair`. -/
def redactKeyValuePair (input key : Text) : Text :=
  trimEnd ((lines input).flatMap fun line => redactLine key line ++ ['\n'])

/-- The keys of `redact_sensitive`. -/
def redactedKeys : List Text :=
  ["DISCORD_TOKEN".toList, "OO_PSEUDO_ID_HMAC_KEY".toList, "TOKEN".toList, "SECRET".toList,
    "PASSWORD".toList]

/-- `redact_sensitive`. -/
def redactSensitive (input : Text) : Text := redactedKeys.foldl redactKeyValuePair input

/-! ### Secret parts -/

/-- The text ends with one of the keys and an equals sign, in any case. -/
def endsWithKey (keys : List Text) (s : Text) : Bool :=
  keys.any fun key => decide (key ++ ['='] <:+ s.map Char.toUpper)

/-- The line up to the earliest end of a key and an equals sign; the secret part is the rest. -/
def publicPart (line : Text) : Text := (firstPrefix (endsWithKey redactedKeys) line).getD line

/-- The line has a key and an equals sign in it. -/
def hidesSecret (line : Text) : Bool := (firstPrefix (endsWithKey redactedKeys) line).isSome

theorem publicPart_publicPart (line : Text) : publicPart (publicPart line) = publicPart line := by
  unfold publicPart
  cases h : firstPrefix (endsWithKey redactedKeys) line with
  | none => rw [Option.getD_none, h, Option.getD_none]
  | some p => rw [Option.getD_some, firstPrefix_self h, Option.getD_some]

/-- A text that ends otherwise than with an equals sign does not end with a key. -/
theorem endsWithKey_append {q : Text} (hq : q ≠ []) (h : ∀ c ∈ q, c.toUpper ≠ '=')
    (keys : List Text) (l : Text) : endsWithKey keys (l ++ q) = false := by
  unfold endsWithKey
  rw [List.any_eq_false]
  intro key _ hend
  obtain ⟨s, hs⟩ := of_decide_eq_true hend
  have hlast := congrArg List.getLast? hs
  rw [← List.append_assoc, List.getLast?_concat, List.getLast?_map, List.getLast?_append_of_ne_nil _ hq,
    List.getLast?_eq_some_getLast hq, Option.map_some, Option.some.injEq] at hlast
  exact h (q.getLast hq) (List.getLast_mem hq) hlast.symm

/-- What has no equals sign in it may be left out at the end. -/
theorem firstPrefix_endsWithKey_append {r : Text} (h : ∀ c ∈ r, c.toUpper ≠ '=') (keys : List Text)
    (l : Text) : firstPrefix (endsWithKey keys) (l ++ r) = firstPrefix (endsWithKey keys) l :=
  firstPrefix_append_eq fun _ hq hne =>
    endsWithKey_append hne (fun c hc => h c (hq.subset hc)) keys l

theorem toUpper_ne_of_cr {r : Text} (h : ∀ c ∈ r, c = '\r') : ∀ c ∈ r, c.toUpper ≠ '=' := by
  intro c hc
  rw [h c hc]
  decide

theorem toUpper_ne_of_blank {r : Text} (h : ∀ c ∈ r, isWhitespace c = true) :
    ∀ c ∈ r, c.toUpper ≠ '=' := by
  intro c hc heq
  have hws := h c hc
  have hc' : c = '=' := by
    unfold Char.toUpper at heq
    split_ifs at heq with hlower
    · have hval := congrArg (fun d : Char => d.val.toNat) heq
      simp only [UInt32.toNat_add] at hval
      have hlow := UInt32.le_iff_toNat_le.1 hlower.1
      have hhigh := UInt32.le_iff_toNat_le.1 hlower.2
      simp at hval hlow hhigh
      omega
    · exact heq
  rw [hc'] at hws
  exact absurd hws (by decide)

theorem toUpper_ne_of_mark : ∀ c ∈ redactedMark, c.toUpper ≠ '=' := by
  have hall : redactedMark.all (fun c => c.toUpper != '=') = true := by decide
  intro c hc
  exact bne_iff_ne.1 (List.all_eq_true.1 hall c hc)

/-- The mark ends otherwise than with any of these. -/
theorem eq_nil_of_append_mark {p b r : Text} (h : p ++ redactedMark = b ++ r)
    (hr : ∀ c ∈ r, c ≠ '>') : r = [] := by
  by_contra hne
  have hlast := congrArg List.getLast? h
  rw [List.getLast?_append_of_ne_nil _ (by decide), List.getLast?_append_of_ne_nil _ hne,
    List.getLast?_eq_some_getLast hne] at hlast
  exact hr (r.getLast hne) (List.getLast_mem hne) (Option.some.inj hlast).symm

/-! ### One pass over a line -/

theorem redactLine_eq (key line : Text) : redactLine key line =
    match firstPrefix (endsWithKey [key]) line with
    | some p => p ++ redactedMark
    | none => line := by
  have hone : endsWithKey [key] = fun q : Text => decide (key ++ ['='] <:+ q.map Char.toUpper) := by
    funext q
    simp [endsWithKey]
  rw [hone, firstPrefix_needle]
  unfold redactLine toAsciiUppercase
  cases Scan.findSub (key ++ ['=']) (line.map Char.toUpper) with
  | none => rfl
  | some pos => simp [Nat.add_assoc]

/-- A pass takes no notice of whitespace at the end. -/
theorem trimEnd_redactLine_append (key l : Text) {r : Text} (h : ∀ c ∈ r, isWhitespace c = true) :
    trimEnd (redactLine key (l ++ r)) = trimEnd (redactLine key l) := by
  rw [redactLine_eq, redactLine_eq, firstPrefix_endsWithKey_append (toUpper_ne_of_blank h)]
  cases firstPrefix (endsWithKey [key]) l with
  | some p => rfl
  | none => exact trimEnd_append_of_blank l h

theorem redactLine_nil (key : Text) : redactLine key [] = [] := by
  unfold redactLine toAsciiUppercase
  simp [Scan.findSub]

theorem newline_not_mem_redactLine {line : Text} (h : '\n' ∉ line) (key : Text) :
    '\n' ∉ redactLine key line := by
  unfold redactLine
  cases Scan.findSub (key ++ ['=']) (toAsciiUppercase line) with
  | none => exact h
  | some pos =>
    intro hmem
    rcases List.mem_append.1 hmem with hmem | hmem
    · exact h (List.mem_of_mem_take hmem)
    · exact absurd hmem (by decide)

/-! ### All passes over a line -/

/-- What the passes so far have made of a line: nothing but carriage returns at its end is gone, or
it is cut where the first of the keys so far ends in it. -/
def CutAt (keys : List Text) (line out : Text) : Prop :=
  match firstPrefix (endsWithKey keys) line with
  | none => ∃ r, line = out ++ r ∧ ∀ c ∈ r, c = '\r'
  | some p => out = p ++ redactedMark

theorem cutAt_nil (line : Text) : CutAt [] line line := by
  have hnone : firstPrefix (endsWithKey []) line = none :=
    firstPrefix_eq_none_iff.2 fun q _ => rfl
  unfold CutAt
  rw [hnone]
  exact ⟨[], by simp, by simp⟩

/-- **One more pass**, after a carriage return at the end may have been lost. -/
theorem CutAt.redactLine {keys : List Text} {line out b r : Text} (h : CutAt keys line out)
    (hout : out = b ++ r) (hr : ∀ c ∈ r, c = '\r') (key : Text) :
    CutAt (keys ++ [key]) line (redactLine key b) := by
  have hor : endsWithKey (keys ++ [key]) = fun q => endsWithKey keys q || endsWithKey [key] q := by
    funext q
    exact List.any_append
  unfold CutAt at h ⊢
  rw [hor, firstPrefix_or, redactLine_eq]
  cases hcut : firstPrefix (endsWithKey keys) line with
  | none =>
    rw [hcut] at h
    obtain ⟨r', hline, hr'⟩ := h
    have hgone : ∀ c ∈ r ++ r', c = '\r' := by
      intro c hc
      rcases List.mem_append.1 hc with hc | hc
      · exact hr c hc
      · exact hr' c hc
    rw [hout, List.append_assoc] at hline
    simp only
    rw [hline, firstPrefix_endsWithKey_append (toUpper_ne_of_cr hgone)]
    cases firstPrefix (endsWithKey [key]) b with
    | none => exact ⟨r ++ r', rfl, hgone⟩
    | some p => rfl
  | some p =>
    rw [hcut] at h
    have h' : out = p ++ redactedMark := h
    -- the mark does not end with a carriage return
    have hnil : r = [] := eq_nil_of_append_mark (h'.symm.trans hout) fun c hc => by
      rw [hr c hc]
      decide
    have hb : b = p ++ redactedMark := by
      rw [← h', hout, hnil, List.append_nil]
    rw [hb, firstPrefix_endsWithKey_append toUpper_ne_of_mark]
    show _ = (firstPrefix (endsWithKey [key]) p).getD p ++ redactedMark
    cases firstPrefix (endsWithKey [key]) p <;> rfl

/-- All passes over a line; before each but the first the lines are read again. -/
def lineRedacted (line : Text) : Text :=
  redactedKeys.tail.foldl (fun out key => redactLine key (stripCr out))
    (redactLine "DISCORD_TOKEN".toList line)

theorem CutAt.foldl {keys : List Text} {line out : Text} (h : CutAt keys line out)
    (more : List Text) : CutAt (keys ++ more) line
      (more.foldl (fun out key => OoBot.redactLine key (stripCr out)) out) := by
  induction more generalizing keys out with
  | nil =>
    rw [List.append_nil]
    exact h
  | cons key more ih =>
    obtain ⟨r, hout, hr⟩ := exists_stripCr out
    have hstep := ih (h.redactLine hout hr key)
    rwa [List.append_assoc, List.singleton_append] at hstep

/-- **All passes over a line** cut it where its public part ends, if it has a secret part. -/
theorem lineRedacted_spec (line : Text) : CutAt redactedKeys line (lineRedacted line) := by
  have hfirst := (cutAt_nil line).redactLine (List.append_nil line).symm (by simp)
    "DISCORD_TOKEN".toList
  exact hfirst.foldl redactedKeys.tail

theorem lineRedacted_of_hides {line : Text} (h : hidesSecret line = true) :
    lineRedacted line = publicPart line ++ redactedMark := by
  have hspec := lineRedacted_spec line
  unfold CutAt at hspec
  unfold hidesSecret at h
  unfold publicPart
  cases hcut : firstPrefix (endsWithKey redactedKeys) line with
  | none =>
    rw [hcut] at h
    cases h
  | some p =>
    rw [hcut] at hspec
    exact hspec

theorem lineRedacted_of_not_hides {line : Text} (h : hidesSecret line = false) :
    ∃ r, line = lineRedacted line ++ r ∧ ∀ c ∈ r, c = '\r' := by
  have hspec := lineRedacted_spec line
  unfold CutAt at hspec
  unfold hidesSecret at h
  cases hcut : firstPrefix (endsWithKey redactedKeys) line with
  | none =>
    rw [hcut] at hspec
    exact hspec
  | some p =>
    rw [hcut] at h
    cases h

/-- What becomes of a line depends on its public part alone. -/
theorem lineRedacted_publicPart (line : Text) : lineRedacted (publicPart line) = lineRedacted line := by
  cases h : hidesSecret line with
  | true =>
    have hpublic : hidesSecret (publicPart line) = true := by
      unfold hidesSecret publicPart at *
      obtain ⟨p, hp⟩ := Option.isSome_iff_exists.1 h
      rw [hp, Option.getD_some, firstPrefix_self hp]
      rfl
    rw [lineRedacted_of_hides h, lineRedacted_of_hides hpublic, publicPart_publicPart]
  | false =>
    unfold hidesSecret at h
    unfold publicPart
    rw [Option.isSome_eq_false_iff, Option.isNone_iff_eq_none] at h
    rw [h, Option.getD_none]

theorem trimEnd_lineRedacted {line : Text} (h : trimEnd line ≠ []) : trimEnd (lineRedacted line) ≠ [] := by
  cases hhides : hidesSecret line with
  | true =>
    have hmark : trimEnd redactedMark = redactedMark := by decide
    rw [lineRedacted_of_hides hhides, trimEnd_append, hmark, if_neg (by decide)]
    intro hnil
    exact absurd (List.append_eq_nil_iff.1 hnil).2 (by decide)
  | false =>
    obtain ⟨r, hr, hcr⟩ := lineRedacted_of_not_hides hhides
    have hblank : ∀ c ∈ r, isWhitespace c = true := by
      intro c hc
      rw [hcr c hc]
      decide
    intro hnil
    refine h ?_
    rw [hr, trimEnd_append_of_blank _ hblank, hnil]

/-! ### All passes over a text -/

theorem newline_not_mem_lineRedacted {line : Text} (h : '\n' ∉ line) : '\n' ∉ lineRedacted line := by
  cases hhides : hidesSecret line with
  | true =>
    rw [lineRedacted_of_hides hhides, List.mem_append, not_or]
    refine ⟨fun hmem => h ?_, by decide⟩
    unfold publicPart at hmem
    cases hcut : firstPrefix (endsWithKey redactedKeys) line with
    | none =>
      rw [hcut] at hmem
      exact hmem
    | some p =>
      rw [hcut] at hmem
      exact (firstPrefix_eq_some_iff.1 hcut).1.subset hmem
  | false =>
    obtain ⟨r, hr, -⟩ := lineRedacted_of_not_hides hhides
    intro hmem
    exact h (hr ▸ List.mem_append_left r hmem)

theorem redactKeyValuePair_eq (input key : Text) : redactKeyValuePair input key =
    trimEnd (unlines ((lines input).map (redactLine key))) := by
  unfold redactKeyValuePair unlines
  rw [List.flatMap_map]

/-- Further passes over lines that were written. -/
theorem foldl_redactKeyValuePair {ls : List Text} (keys : List Text) {g : Text → Text}
    (hg : ∀ l ∈ ls, '\n' ∉ g l) :
    keys.foldl redactKeyValuePair (trimEnd (unlines (ls.map g))) =
      trimEnd (unlines (ls.map fun l =>
        keys.foldl (fun out key => redactLine key (stripCr out)) (g l))) := by
  induction keys generalizing g with
  | nil => rfl
  | cons key keys ih =>
    have hlines : ∀ l ∈ ls.map g, '\n' ∉ l := by
      intro l hl
      obtain ⟨l', hl', rfl⟩ := List.mem_map.1 hl
      exact hg l' hl'
    have hpass : redactKeyValuePair (trimEnd (unlines (ls.map g))) key =
        trimEnd (unlines (ls.map fun l => redactLine key (stripCr (g l)))) := by
      have h := resplit (f := redactLine key) (fun l r hr => trimEnd_redactLine_append key l hr)
        (redactLine_nil key) hlines
      rw [List.map_map] at h
      rw [redactKeyValuePair_eq, h]
      rfl
    rw [List.foldl_cons, hpass, ih fun l hl => newline_not_mem_redactLine (not_mem_stripCr (hg l hl)) key]
    rfl

/-- **All passes over a text** are all passes over each of its lines. -/
theorem redactSensitive_eq (input : Text) :
    redactSensitive input = trimEnd (unlines ((lines input).map lineRedacted)) := by
  have hkeys : redactedKeys = "DISCORD_TOKEN".toList :: redactedKeys.tail := rfl
  unfold redactSensitive
  rw [hkeys, List.foldl_cons, redactKeyValuePair_eq,
    foldl_redactKeyValuePair _ fun l hl =>
      newline_not_mem_redactLine (not_mem_of_mem_lines hl) "DISCORD_TOKEN".toList]
  rfl

/-! ### What comes out -/

/-- The output depends on the public parts alone. -/
theorem redactSensitive_congr {input other : Text}
    (h : (lines input).map publicPart = (lines other).map publicPart) :
    redactSensitive input = redactSensitive other := by
  have hmap : ∀ s : Text,
      (lines s).map lineRedacted = ((lines s).map publicPart).map lineRedacted := by
    intro s
    rw [List.map_map]
    refine List.map_congr_left fun line _ => ?_
    rw [Function.comp_apply, lineRedacted_publicPart]
  rw [redactSensitive_eq, redactSensitive_eq, hmap, hmap, h]

section OneLine

variable {input line : Text} {i : ℕ}

/-- A line of the output, which may have lost whitespace at its end. -/
theorem getElem_redactSensitive (hline : (lines input)[i]? = some line) :
    ∃ r, lineRedacted line = (lines (redactSensitive input))[i]?.getD [] ++ r ∧
      (∀ c ∈ r, isWhitespace c = true) ∧
      ((∃ (j : ℕ) (later : Text), i < j ∧ (lines input)[j]? = some later ∧ trimEnd later ≠ []) →
        ∀ c ∈ r, c = '\r') := by
  have hnewline : ∀ l ∈ (lines input).map lineRedacted, '\n' ∉ l := by
    intro l hl
    obtain ⟨l', hl', rfl⟩ := List.mem_map.1 hl
    exact newline_not_mem_lineRedacted (not_mem_of_mem_lines hl')
  obtain ⟨r, hr, hws, hcr⟩ := lines_trimEnd_unlines hnewline i
  rw [← redactSensitive_eq, List.getElem?_map, hline, Option.map_some, Option.getD_some] at hr
  refine ⟨r, hr, hws, ?_⟩
  rintro ⟨j, later, hij, hj, hne⟩
  refine hcr ⟨j, lineRedacted later, hij, ?_, trimEnd_lineRedacted hne⟩
  rw [List.getElem?_map, hj]
  rfl

/-- A line with a secret part is cut there. -/
theorem redacted_of_hides (hline : (lines input)[i]? = some line) (h : hidesSecret line = true) :
    (lines (redactSensitive input))[i]? = some (publicPart line ++ redactedMark) := by
  obtain ⟨r, hr, hws, -⟩ := getElem_redactSensitive hline
  rw [lineRedacted_of_hides h] at hr
  -- the mark does not end with whitespace, so nothing is gone
  have hnil : r = [] := eq_nil_of_append_mark hr fun c hc heq => by
    have hblank := hws c hc
    rw [heq] at hblank
    exact absurd hblank (by decide)
  rw [hnil, List.append_nil] at hr
  rw [hr]
  cases hout : (lines (redactSensitive input))[i]? with
  | none =>
    rw [hout, Option.getD_none] at hr
    exact absurd (List.append_eq_nil_iff.1 hr).2 (by decide)
  | some out => rfl

/-- A line without a secret part is there as it was, up to whitespace at its end. -/
theorem redacted_of_not_hides (hline : (lines input)[i]? = some line) (h : hidesSecret line = false) :
    ∃ r, line = (lines (redactSensitive input))[i]?.getD [] ++ r ∧
      (∀ c ∈ r, isWhitespace c = true) ∧
      ((∃ (j : ℕ) (later : Text), i < j ∧ (lines input)[j]? = some later ∧ trimEnd later ≠ []) →
        ∀ c ∈ r, c = '\r') := by
  obtain ⟨r, hr, hws, hcr⟩ := getElem_redactSensitive hline
  obtain ⟨r', hr', hcr'⟩ := lineRedacted_of_not_hides h
  refine ⟨r ++ r', ?_, ?_, ?_⟩
  · rw [← List.append_assoc, ← hr]
    exact hr'
  · intro c hc
    rcases List.mem_append.1 hc with hc | hc
    · exact hws c hc
    · rw [hcr' c hc]
      decide
  · intro hlater c hc
    rcases List.mem_append.1 hc with hc | hc
    · exact hcr hlater c hc
    · exact hcr' c hc

end OneLine

/-- **Redaction is noninterfering.**  Two texts whose lines agree but for their secret parts have the
same redaction.  A line of the redaction is the line of the text, cut where its secret part begins; and
a line without a secret part is there as it was, up to carriage returns before its end, and up to other
whitespace where nothing but blank lines follows. -/
theorem redaction_noninterfering (input other : Text) :
    ((lines input).map publicPart = (lines other).map publicPart →
        redactSensitive input = redactSensitive other) ∧
      ∀ (i : ℕ) (line : Text), (lines input)[i]? = some line →
        (hidesSecret line = true →
          (lines (redactSensitive input))[i]? = some (publicPart line ++ redactedMark)) ∧
        (hidesSecret line = false →
          ∃ r, line = (lines (redactSensitive input))[i]?.getD [] ++ r ∧
            (∀ c ∈ r, isWhitespace c = true) ∧
            ((∃ (j : ℕ) (later : Text), i < j ∧ (lines input)[j]? = some later ∧ trimEnd later ≠ []) →
              ∀ c ∈ r, c = '\r')) := by
  refine ⟨redactSensitive_congr, ?_⟩
  intro i line hline
  exact ⟨redacted_of_hides hline, redacted_of_not_hides hline⟩

end OoBot
