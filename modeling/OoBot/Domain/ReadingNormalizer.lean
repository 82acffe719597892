import OoBot.Domain.Detector

/-!
# `normalize_reading` twice

What `normalize_reading` drops may have kept white space from the ends of the text, where the next call
trims it.  Nothing else can change in a second call: its text is folded already, and has nothing to drop
(`normalizeReading_twice`).
-/

namespace OoBot

/-- What is assumed of NFKC. -/
structure Nfkc (nfkc : Text → Text) : Prop where
  idempotent : ∀ s, nfkc (nfkc s) = nfkc s
  ascii : ∀ s, isAscii s = true → nfkc s = s

/-- The characters of a normalized text that `normalize_reading` keeps. -/
def keptText (s : Text) : Text := (trim s).filter fun ch => !shouldDrop ch

/-- Neither the first nor the last of them is white space. -/
def KeepsItsEnds (s : Text) : Prop :=
  (∀ c ∈ (keptText s).head?, isWhitespace c = false) ∧
    ∀ c ∈ (keptText s).getLast?, isWhitespace c = false

/-- The text before the second NFKC. -/
def foldedText (s : Text) : Text := (keptText s).map katakanaToHiragana

/-! ### Trimming -/

/-- A text stays as it is exactly if neither end is white space. -/
theorem trim_eq_self_iff {s : Text} : trim s = s ↔
    (∀ c ∈ s.head?, isWhitespace c = false) ∧ ∀ c ∈ s.getLast?, isWhitespace c = false := by
  have hdrop : s.dropWhile isWhitespace = s ↔ ∀ c ∈ s.head?, isWhitespace c = false := by
    cases s with
    | nil => simp
    | cons c s => simp [List.dropWhile_eq_self_iff]
  have hrdrop : s.rdropWhile isWhitespace = s ↔ ∀ c ∈ s.getLast?, isWhitespace c = false := by
    rcases List.eq_nil_or_concat' s with rfl | ⟨s, c, rfl⟩
    · simp
    · simp [List.rdropWhile_eq_self_iff]
  rw [← hdrop, ← hrdrop]
  unfold trim
  constructor
  · intro h
    have hself : s.dropWhile isWhitespace = s := by
      refine (List.dropWhile_suffix isWhitespace).eq_of_length_le ?_
      have hlength := (List.rdropWhile_prefix isWhitespace (s.dropWhile isWhitespace)).length_le
      rw [h] at hlength
      exact hlength
    rw [hself] at h
    exact ⟨hself, h⟩
  · rintro ⟨hself, hself'⟩
    rw [hself, hself']

theorem trim_sublist (s : Text) : List.Sublist (trim s) s :=
  (List.rdropWhile_prefix _ _).sublist.trans (List.dropWhile_sublist _)

/-! ### Folding -/

theorem katakanaToHiragana_toNat (c : Char) : (katakanaToHiragana c).toNat =
    if 0x30A1 ≤ c.toNat ∧ c.toNat ≤ 0x30F6 then c.toNat - 0x60 else c.toNat := by
  unfold katakanaToHiragana
  split_ifs with h
  · have hvalid : (c.toNat - 0x60).isValidChar := by
      unfold Nat.isValidChar
      omega
    unfold Char.ofNat
    rw [dif_pos hvalid]
    rfl
  · rfl

theorem katakanaToHiragana_of_ascii {c : Char} (h : c.toNat < 128) : katakanaToHiragana c = c := by
  unfold katakanaToHiragana
  rw [if_neg (by omega)]

/-- A folded character is folded already. -/
theorem katakanaToHiragana_idem (c : Char) :
    katakanaToHiragana (katakanaToHiragana c) = katakanaToHiragana c := by
  have hnat := katakanaToHiragana_toNat c
  refine if_neg fun hrange => ?_
  split_ifs at hnat <;> omega

/-- No character that is dropped is hiragana. -/
theorem shouldDrop_of_hiragana {c : Char} (h : 0x3041 ≤ c.toNat) (h' : c.toNat ≤ 0x3096) :
    shouldDrop c = false := by
  rw [Bool.eq_false_iff]
  intro hdrop
  unfold shouldDrop at hdrop
  rw [List.contains_iff_mem] at hdrop
  simp only [List.mem_cons, List.not_mem_nil, or_false] at hdrop
  rcases hdrop with rfl | rfl | rfl | rfl | rfl | rfl | rfl | rfl | rfl | rfl | rfl | rfl | rfl | rfl <;>
    revert h h' <;> decide

/-- Folding makes nothing that is to be dropped. -/
theorem shouldDrop_katakanaToHiragana {c : Char} (h : shouldDrop c = false) :
    shouldDrop (katakanaToHiragana c) = false := by
  have hnat := katakanaToHiragana_toNat c
  by_cases hrange : 0x30A1 ≤ c.toNat ∧ c.toNat ≤ 0x30F6
  · rw [if_pos hrange] at hnat
    exact shouldDrop_of_hiragana (by omega) (by omega)
  · unfold katakanaToHiragana
    rw [if_neg hrange]
    exact h

/-- Folding makes no white space, and takes none away. -/
theorem isWhitespace_katakanaToHiragana (c : Char) :
    isWhitespace (katakanaToHiragana c) = isWhitespace c := by
  unfold isWhitespace
  rw [katakanaToHiragana_toNat]
  split_ifs with h
  · rw [Bool.eq_iff_iff]
    simp only [Bool.or_eq_true, Bool.and_eq_true, decide_eq_true_eq, beq_iff_eq]
    omega
  · rfl

theorem trim_foldedText_iff {s : Text} : trim (foldedText s) = foldedText s ↔ KeepsItsEnds s := by
  unfold foldedText KeepsItsEnds
  rw [trim_eq_self_iff, List.head?_map, List.getLast?_map]
  simp [isWhitespace_katakanaToHiragana]

theorem isAscii_iff {s : Text} : isAscii s = true ↔ ∀ c ∈ s, c.toNat < 128 := by
  simp [isAscii]

theorem isAscii_of_sublist {s t : Text} (h : List.Sublist t s) (hs : isAscii s = true) :
    isAscii t = true :=
  isAscii_iff.2 fun c hc => isAscii_iff.1 hs c (h.subset hc)

theorem map_katakanaToHiragana_of_ascii {s : Text} (h : isAscii s = true) :
    s.map katakanaToHiragana = s :=
  (List.map_congr_left fun c hc => katakanaToHiragana_of_ascii (isAscii_iff.1 h c hc)).trans
    (List.map_id s)

/-! ### The second call -/

/-- The second NFKC brings back nothing to drop or to fold, and no white space at the ends; and what it
returns may be trimmed. -/
structure Settles (nfkc : Text → Text) (s : Text) : Prop where
  kept : ∀ c ∈ nfkc s, shouldDrop c = false
  folded : ∀ c ∈ nfkc s, katakanaToHiragana c = c
  trimmed : nfkc (trim (nfkc s)) = trim (nfkc s)
  ends : trim (nfkc s) = nfkc s ↔ trim s = s

variable {nfkc : Text → Text}

theorem normalizeReading_eq (s : Text) : normalizeReading nfkc s = nfkc (foldedText (nfkc s)) := rfl

/-- All that a second call does is to trim. -/
theorem normalizeReading_twice (hnfkc : Nfkc nfkc) {s : Text} (h : Settles nfkc (foldedText (nfkc s))) :
    normalizeReading nfkc (normalizeReading nfkc s) = trim (normalizeReading nfkc s) := by
  rw [normalizeReading_eq s]
  generalize foldedText (nfkc s) = text at h
  have hkept : keptText (nfkc text) = trim (nfkc text) := by
    refine List.filter_eq_self.2 fun c hc => ?_
    rw [h.kept c ((trim_sublist _).subset hc)]
    rfl
  have hfolded : foldedText (nfkc text) = trim (nfkc text) := by
    unfold foldedText
    rw [hkept]
    refine (List.map_congr_left fun c hc => ?_).trans (List.map_id _)
    exact h.folded c ((trim_sublist _).subset hc)
  rw [normalizeReading_eq, hnfkc.idempotent, hfolded, h.trimmed]

/-- So a second call changes nothing exactly if the first one keeps no white space at the ends. -/
theorem normalizeReading_twice_iff (hnfkc : Nfkc nfkc) {s : Text}
    (h : Settles nfkc (foldedText (nfkc s))) :
    normalizeReading nfkc (normalizeReading nfkc s) = normalizeReading nfkc s ↔
      KeepsItsEnds (nfkc s) := by
  rw [normalizeReading_twice hnfkc h, normalizeReading_eq, h.ends, trim_foldedText_iff]

theorem isAscii_keptText {s : Text} (h : isAscii s = true) : isAscii (keptText s) = true :=
  isAscii_of_sublist (List.filter_sublist.trans (trim_sublist s)) h

theorem foldedText_of_ascii {s : Text} (h : isAscii s = true) : foldedText s = keptText s :=
  map_katakanaToHiragana_of_ascii (isAscii_keptText h)

theorem normalizeReading_of_ascii (hnfkc : Nfkc nfkc) {s : Text} (h : isAscii s = true) :
    normalizeReading nfkc s = keptText s := by
  rw [normalizeReading_eq, hnfkc.ascii s h, foldedText_of_ascii h]
  exact hnfkc.ascii _ (isAscii_keptText h)

/-- A text settles that NFKC leaves alone, with and without the white space at its ends. -/
theorem settles_of_fixed {s : Text} (hself : nfkc (foldedText s) = foldedText s)
    (htrim : nfkc (trim (foldedText s)) = trim (foldedText s)) : Settles nfkc (foldedText s) := by
  refine ⟨?_, ?_, ?_, ?_⟩
  · rw [hself]
    intro c hc
    obtain ⟨d, hd, rfl⟩ := List.mem_map.1 hc
    have hdrop := (List.mem_filter.1 hd).2
    exact shouldDrop_katakanaToHiragana (by simpa using hdrop)
  · rw [hself]
    intro c hc
    obtain ⟨d, -, rfl⟩ := List.mem_map.1 hc
    exact katakanaToHiragana_idem d
  · rw [hself]
    exact htrim
  · rw [hself]

/-- ASCII settles, whatever NFKC does elsewhere. -/
theorem settles_of_ascii (hnfkc : Nfkc nfkc) {s : Text} (h : isAscii s = true) :
    Settles nfkc (foldedText s) := by
  have hfolded : isAscii (foldedText s) = true := by
    rw [foldedText_of_ascii h]
    exact isAscii_keptText h
  exact settles_of_fixed (hnfkc.ascii _ hfolded)
    (hnfkc.ascii _ (isAscii_of_sublist (trim_sublist _) hfolded))

/-! ### An NFKC of which nothing more is known -/

/-- A text with a dot before a line tabulation. -/
def dotTab : Text := ['.', '\u000B', 'a']

/-- The tabulation is the first character that is kept. -/
theorem not_keepsItsEnds_dotTab : ¬ KeepsItsEnds dotTab := by
  intro h
  have hfirst : (keptText dotTab).head? = some '\u000B' := by decide
  exact absurd (h.1 _ hfirst) (by decide)

theorem nfkc_id : Nfkc id := ⟨fun _ => rfl, fun _ _ => rfl⟩

/-- The laws of NFKC do not keep it from turning one text into any other. -/
theorem nfkc_update {s t : Text} (h : isAscii s = false) (hne : t ≠ s) : Nfkc (Function.update id s t) := by
  constructor
  · intro r
    by_cases hrs : r = s
    · rw [hrs, Function.update_self, Function.update_of_ne hne]
      rfl
    · rw [Function.update_of_ne hrs, id_eq, Function.update_of_ne hrs]
      rfl
  · intro r hr
    have hrs : r ≠ s := by
      rintro rfl
      rw [h] at hr
      cases hr
    rw [Function.update_of_ne hrs]
    rfl

theorem normalizeReading_dotTab (hnfkc : Nfkc nfkc) {s : Text} (h : nfkc s = dotTab) :
    normalizeReading nfkc (normalizeReading nfkc s) ≠ normalizeReading nfkc s := by
  have hsettles : Settles nfkc (foldedText (nfkc s)) := by
    rw [h]
    exact settles_of_ascii hnfkc (by decide)
  rw [Ne, normalizeReading_twice_iff hnfkc hsettles, h]
  exact not_keepsItsEnds_dotTab

/-- **Where normalizing twice is normalizing once.**  With nothing known of NFKC but its laws: on ASCII
texts whose kept characters neither start nor end with white space.  With an NFKC that settles: on all
texts whose kept characters do not. -/
theorem normalize_reading_idempotent_iff (s : Text) :
    ((∀ nfkc, Nfkc nfkc →
        normalizeReading nfkc (normalizeReading nfkc s) = normalizeReading nfkc s) ↔
      isAscii s = true ∧ KeepsItsEnds s) ∧
    ∀ nfkc, Nfkc nfkc → Settles nfkc (foldedText (nfkc s)) →
      (normalizeReading nfkc (normalizeReading nfkc s) = normalizeReading nfkc s ↔
        KeepsItsEnds (nfkc s)) := by
  refine ⟨?_, fun nfkc hnfkc hsettles => normalizeReading_twice_iff hnfkc hsettles⟩
  constructor
  · intro h
    have hascii : isAscii s = true := by
      by_contra hascii
      have hne : dotTab ≠ s := by
        rintro rfl
        exact hascii rfl
      have hupdate := nfkc_update (Bool.eq_false_iff.2 hascii) hne
      exact normalizeReading_dotTab hupdate (Function.update_self ..) (h _ hupdate)
    exact ⟨hascii, (normalizeReading_twice_iff nfkc_id (settles_of_ascii nfkc_id hascii)).1 (h id nfkc_id)⟩
  · rintro ⟨hascii, hends⟩ nfkc hnfkc
    have hself : nfkc s = s := hnfkc.ascii s hascii
    have hsettles : Settles nfkc (foldedText (nfkc s)) := by
      rw [hself]
      exact settles_of_ascii hnfkc hascii
    rw [normalizeReading_twice_iff hnfkc hsettles, hself]
    exact hends

/-- A reading in half-width katakana. -/
def halfWidth : Text := "ｵｵ･ｷｲ".toList

/-- NFKC of that reading, which it widens. -/
def widened : Text → Text := Function.update id halfWidth "オオ・キイ".toList

theorem normalize_reading_idempotent_halfWidth :
    Nfkc widened ∧ Settles widened (foldedText (widened halfWidth)) ∧
      (normalizeReading widened (normalizeReading widened halfWidth) =
          normalizeReading widened halfWidth ↔ KeepsItsEnds (widened halfWidth)) := by
  have hwide : widened halfWidth = "オオ・キイ".toList := Function.update_self ..
  have hfolded : foldedText (widened halfWidth) = "おおきい".toList := by
    rw [hwide]
    decide
  have hnfkc : Nfkc widened := nfkc_update (by decide) (by decide)
  have hfixed : widened "おおきい".toList = "おおきい".toList := Function.update_of_ne (by decide) _ _
  have htrim : trim "おおきい".toList = "おおきい".toList := by decide
  have hsettles : Settles widened (foldedText (widened halfWidth)) := by
    refine settles_of_fixed ?_ ?_
    · rw [hfolded, hfixed]
    · rw [hfolded, htrim, hfixed]
  exact ⟨hnfkc, hsettles, (normalize_reading_idempotent_iff halfWidth).2 widened hnfkc hsettles⟩

/-- The tabulation comes to the front in the first call and goes in the second, for every NFKC. -/
theorem normalize_reading_not_idempotent :
    (∃ nfkc, Nfkc nfkc) ∧ ∀ nfkc, Nfkc nfkc →
      normalizeReading nfkc dotTab = ['\u000B', 'a'] ∧
        normalizeReading nfkc (normalizeReading nfkc dotTab) = ['a'] := by
  refine ⟨⟨id, nfkc_id⟩, fun nfkc hnfkc => ?_⟩
  have honce : normalizeReading nfkc dotTab = ['\u000B', 'a'] := by
    rw [normalizeReading_of_ascii hnfkc (by decide)]
    decide
  refine ⟨honce, ?_⟩
  rw [honce, normalizeReading_of_ascii hnfkc (by decide)]
  decide

end OoBot
