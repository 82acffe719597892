import OoBot.Text

/-!
# Lines of a text

`str::lines`, `str::trim_end` and `str::to_ascii_uppercase`, and what comes of writing lines, trimming
the end and reading the lines again: the text is the same as if the lines had only lost the carriage
return at their ends (`resplit`), and each line is there, up to whitespace at its end
(`lines_trimEnd_unlines`).
-/

namespace OoBot

/-- `str::to_ascii_uppercase`. -/
def toAsciiUppercase (s : Text) : Text := s.map Char.toUpper

/-- `str::trim_end`. -/
def trimEnd (s : Text) : Text := s.rdropWhile isWhitespace

/-- A line without the carriage return before its end. -/
def stripCr (line : Text) : Text := if line.getLast? = some '\r' then line.dropLast else line

/-- The lines of `s`, after the characters `line` of the first one. -/
def linesFrom (line : Text) : Text → List Text
  | [] => if line.isEmpty then [] else [line]
  | c :: s => if c = '\n' then stripCr line :: linesFrom [] s else linesFrom (line ++ [c]) s

/-- `str::lines`: a line ends with a line feed or with a carriage return and a line feed; the last one
may end with the text. -/
def lines (s : Text) : List Text := linesFrom [] s

/-- The lines, each with a line feed. -/
def unlines (ls : List Text) : Text := ls.flatMap fun line => line ++ ['\n']

/-! ### Trimming -/

theorem isWhitespace_newline : isWhitespace '\n' = true := by decide

/-- Whitespace only. -/
theorem trimEnd_eq_nil_iff {s : Text} : trimEnd s = [] ↔ ∀ c ∈ s, isWhitespace c = true :=
  List.rdropWhile_eq_nil_iff

theorem trimEnd_append (l r : Text) :
    trimEnd (l ++ r) = if trimEnd r = [] then trimEnd l else l ++ trimEnd r := by
  unfold trimEnd List.rdropWhile
  rw [List.reverse_append, List.dropWhile_append]
  cases h : r.reverse.dropWhile isWhitespace <;> simp

theorem trimEnd_append_of_blank {r : Text} (l : Text) (hr : ∀ c ∈ r, isWhitespace c = true) :
    trimEnd (l ++ r) = trimEnd l := by
  rw [trimEnd_append, if_pos (trimEnd_eq_nil_iff.2 hr)]

/-- What the trimming takes away. -/
theorem exists_trimEnd (s : Text) : ∃ r, s = trimEnd s ++ r ∧ ∀ c ∈ r, isWhitespace c = true :=
  ⟨s.rtakeWhile isWhitespace, List.rdropWhile_append_rtakeWhile.symm,
    fun _ hc => List.mem_rtakeWhile_imp hc⟩

/-- What the line ending takes away. -/
theorem exists_stripCr (line : Text) : ∃ r, line = stripCr line ++ r ∧ ∀ c ∈ r, c = '\r' := by
  unfold stripCr
  split_ifs with h
  · exact ⟨['\r'], (List.dropLast_append_getLast? _ h).symm, by simp⟩
  · exact ⟨[], by simp, by simp⟩

theorem not_mem_stripCr {c : Char} {line : Text} (h : c ∉ line) : c ∉ stripCr line := by
  obtain ⟨r, hr, -⟩ := exists_stripCr line
  intro hc
  rw [hr] at h
  exact h (List.mem_append_left r hc)

/-! ### Reading lines -/

theorem linesFrom_append_newline {l : Text} (hl : '\n' ∉ l) (line s : Text) :
    linesFrom line (l ++ '\n' :: s) = stripCr (line ++ l) :: lines s := by
  induction l generalizing line with
  | nil =>
    rw [List.append_nil]
    exact if_pos rfl
  | cons c l ih =>
    rw [List.mem_cons, not_or] at hl
    rw [List.cons_append, linesFrom, if_neg (Ne.symm hl.1), ih hl.2, List.append_assoc]
    rfl

/-- A line that is ended. -/
theorem lines_append_newline {l : Text} (hl : '\n' ∉ l) (s : Text) :
    lines (l ++ '\n' :: s) = stripCr l :: lines s :=
  linesFrom_append_newline hl [] s

theorem linesFrom_of_not_mem {l : Text} (hl : '\n' ∉ l) (line : Text) :
    linesFrom line l = if (line ++ l).isEmpty then [] else [line ++ l] := by
  induction l generalizing line with
  | nil =>
    rw [List.append_nil]
    rfl
  | cons c l ih =>
    rw [List.mem_cons, not_or] at hl
    rw [linesFrom, if_neg (Ne.symm hl.1), ih hl.2, List.append_assoc]
    rfl

/-- A last line that the text ends. -/
theorem lines_of_not_mem {l : Text} (hl : '\n' ∉ l) : lines l = if l.isEmpty then [] else [l] :=
  linesFrom_of_not_mem hl []

theorem not_mem_of_mem_linesFrom {s : Text} {line : Text} (hline : '\n' ∉ line) {l : Text}
    (hl : l ∈ linesFrom line s) : '\n' ∉ l := by
  induction s generalizing line with
  | nil =>
    unfold linesFrom at hl
    split_ifs at hl
    · cases hl
    · rwa [List.mem_singleton.1 hl]
  | cons c s ih =>
    unfold linesFrom at hl
    split_ifs at hl with hc
    · rcases List.mem_cons.1 hl with rfl | hl
      · exact not_mem_stripCr hline
      · exact ih List.not_mem_nil hl
    · refine ih ?_ hl
      rw [List.mem_append, List.mem_singleton, not_or]
      exact ⟨hline, Ne.symm hc⟩

/-- No line has a line feed in it. -/
theorem not_mem_of_mem_lines {s l : Text} (h : l ∈ lines s) : '\n' ∉ l :=
  not_mem_of_mem_linesFrom List.not_mem_nil h

/-! ### Writing lines and trimming the end -/

/-- A line counts only up to the last line that is not blank. -/
theorem trimEnd_unlines_cons (l : Text) (ls : List Text) :
    trimEnd (unlines (l :: ls)) =
      if trimEnd (unlines ls) = [] then trimEnd l else l ++ '\n' :: trimEnd (unlines ls) := by
  rw [show unlines (l :: ls) = l ++ ('\n' :: unlines ls) by simp [unlines], trimEnd_append]
  have hcons : trimEnd ('\n' :: unlines ls) =
      if trimEnd (unlines ls) = [] then [] else '\n' :: trimEnd (unlines ls) := by
    rw [← List.singleton_append, trimEnd_append]
    split_ifs
    · exact trimEnd_eq_nil_iff.2 (by simp [isWhitespace_newline])
    · rfl
  rw [hcons]
  split_ifs <;> simp_all

theorem trimEnd_unlines_eq_nil_iff {ls : List Text} :
    trimEnd (unlines ls) = [] ↔ ∀ l ∈ ls, trimEnd l = [] := by
  induction ls with
  | nil => exact iff_of_true rfl (by simp)
  | cons l ls ih =>
    rw [trimEnd_unlines_cons, List.forall_mem_cons, ← ih]
    split_ifs with h <;> simp [h]

/-- **Reading lines again.**  Lines are written, the end is trimmed, and the lines are read and written
again, each through `f`: that is the text of the first lines, each through `f` once it has lost the
carriage return at its end; `f` may not take notice of whitespace at the end. -/
theorem resplit {f : Text → Text} (hf : ∀ l r, (∀ c ∈ r, isWhitespace c = true) →
      trimEnd (f (l ++ r)) = trimEnd (f l)) (hnil : f [] = []) {ls : List Text}
    (h : ∀ l ∈ ls, '\n' ∉ l) :
    trimEnd (unlines ((lines (trimEnd (unlines ls))).map f)) =
      trimEnd (unlines (ls.map fun l => f (stripCr l))) := by
  induction ls with
  | nil => rfl
  | cons l ls ih =>
    obtain ⟨hl, hls⟩ := List.forall_mem_cons.1 h
    rw [trimEnd_unlines_cons]
    split_ifs with hblank
    · -- nothing but blank lines follows
      have hrest : trimEnd (unlines (ls.map fun l => f (stripCr l))) = [] := by
        rw [← ih hls, hblank]
        rfl
      obtain ⟨r, hr, hws⟩ := exists_trimEnd l
      obtain ⟨r', hr', hcr⟩ := exists_stripCr l
      have hnot : '\n' ∉ trimEnd l := fun hmem => hl (hr ▸ List.mem_append_left r hmem)
      have hsame : trimEnd (f (trimEnd l)) = trimEnd (f (stripCr l)) := by
        rw [← hf (trimEnd l) r hws, ← hr, ← hf (stripCr l) r' ?_, ← hr']
        intro c hc
        rw [hcr c hc]
        decide
      rw [lines_of_not_mem hnot, List.map_cons, trimEnd_unlines_cons, if_pos hrest, ← hsame]
      cases htrim : trimEnd l with
      | nil =>
        rw [hnil]
        rfl
      | cons c s =>
        show trimEnd (unlines [f (c :: s)]) = _
        rw [trimEnd_unlines_cons]
        exact if_pos rfl
    · rw [lines_append_newline hl, List.map_cons, List.map_cons, trimEnd_unlines_cons,
        trimEnd_unlines_cons, ih hls]

/-- The last line that is not blank is there, up to whitespace at its end. -/
theorem lines_trimEnd_last {l : Text} {ls : List Text} (hl : '\n' ∉ l)
    (hlater : ∀ l' ∈ ls, trimEnd l' = []) (i : ℕ) :
    ∃ r, (l :: ls)[i]?.getD [] = (lines (trimEnd l))[i]?.getD [] ++ r ∧
      ∀ c ∈ r, isWhitespace c = true := by
  obtain ⟨r, hr, hws⟩ := exists_trimEnd l
  have hnot : '\n' ∉ trimEnd l := fun hmem => hl (hr ▸ List.mem_append_left r hmem)
  rw [lines_of_not_mem hnot]
  cases i with
  | zero =>
    refine ⟨r, ?_, hws⟩
    cases htrim : trimEnd l with
    | nil =>
      rw [htrim] at hr
      simpa using hr
    | cons c s =>
      rw [htrim] at hr
      simpa using hr
  | succ i =>
    refine ⟨ls[i]?.getD [], ?_, ?_⟩
    · cases trimEnd l <;> simp
    · cases hi : ls[i]? with
      | none => simp
      | some l' => exact trimEnd_eq_nil_iff.1 (hlater l' (List.mem_of_getElem? hi))

/-- **What is read again.**  Each line is there, up to whitespace at its end, and up to carriage returns
unless nothing but blank lines follows. -/
theorem lines_trimEnd_unlines {ls : List Text} (h : ∀ l ∈ ls, '\n' ∉ l) (i : ℕ) :
    ∃ r, ls[i]?.getD [] = (lines (trimEnd (unlines ls)))[i]?.getD [] ++ r ∧
      (∀ c ∈ r, isWhitespace c = true) ∧
      ((∃ j l, i < j ∧ ls[j]? = some l ∧ trimEnd l ≠ []) → ∀ c ∈ r, c = '\r') := by
  induction ls generalizing i with
  | nil => exact ⟨[], by simp [unlines, lines, linesFrom, trimEnd], by simp, by simp⟩
  | cons l ls ih =>
    obtain ⟨hl, hls⟩ := List.forall_mem_cons.1 h
    rw [trimEnd_unlines_cons]
    split_ifs with hblank
    · have hlater : ∀ l' ∈ ls, trimEnd l' = [] := trimEnd_unlines_eq_nil_iff.1 hblank
      obtain ⟨r, hr, hws⟩ := lines_trimEnd_last hl hlater i
      refine ⟨r, hr, hws, ?_⟩
      rintro ⟨j, l', hij, hj, hne⟩
      obtain ⟨k, rfl⟩ := Nat.exists_eq_add_of_lt hij
      exact absurd (hlater l' (List.mem_of_getElem? (by simpa using hj))) hne
    · rw [lines_append_newline hl]
      cases i with
      | zero =>
        obtain ⟨r, hr, hcr⟩ := exists_stripCr l
        refine ⟨r, by simpa using hr, ?_, fun _ => hcr⟩
        intro c hc
        rw [hcr c hc]
        decide
      | succ i =>
        obtain ⟨r, hr, hws, hcr⟩ := ih hls i
        refine ⟨r, by simpa using hr, hws, ?_⟩
        rintro ⟨j, l', hij, hj, hne⟩
        cases j with
        | zero => exact absurd hij (Nat.not_lt_zero _)
        | succ j => exact hcr ⟨j, l', Nat.lt_of_succ_lt_succ hij, by simpa using hj, hne⟩

end OoBot
