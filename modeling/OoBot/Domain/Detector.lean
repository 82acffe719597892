import Mathlib.Algebra.GroupWithZero.Nat
import Mathlib.Algebra.Order.BigOperators.Group.List
import OoBot.Domain.OoCounter

/-!
# `src/domain/detector.rs` and `src/domain/reading_normalizer.rs`

The trusted detector counts configured literal patterns in a message and the tokens whose reading,
pronunciation or surface contains a configured target reading.

* NFKC normalisation (the crate `unicode_normalization`) is the parameter `nfkc`;
* the tokenizer (the crate `lindera`) is a parameter too: for each content, its lock is poisoned, it
  fails, or it yields a list of tokens (`TokenizerResult`).
-/

namespace OoBot

/-! ### Readings -/

/-- `should_drop`. -/
def shouldDrop (ch : Char) : Bool :=
  ['.', '-', '\u2010', '\u2011', '\u2013', '\u2014', '\u2015', '\u30FB', '\uFF65', ' ', '\u3000',
    '\t', '\n', '\r'].contains ch

/-- `katakana_to_hiragana`. -/
def katakanaToHiragana (ch : Char) : Char :=
  if 0x30A1 ≤ ch.toNat ∧ ch.toNat ≤ 0x30F6 then Char.ofNat (ch.toNat - 0x60) else ch

/-- `normalize_reading`. -/
def normalizeReading (nfkc : Text → Text) (input : Text) : Text :=
  nfkc (((trim (nfkc input)).filter fun ch => !shouldDrop ch).map katakanaToHiragana)

/-! ### Policy and report -/

/-- `DetectorBackendKind`. -/
inductive DetectorBackendKind
  | morphologicalReading
  | fallback
  deriving DecidableEq, Repr

/-- `DetectorPolicy`. -/
structure DetectorPolicy where
  targetReadings : List Text
  literalSequencePatterns : List Text
  specialPhrases : List Text
  deriving DecidableEq

/-- `DetectorPolicy::normalized_target_readings`. -/
def DetectorPolicy.normalizedTargetReadings (nfkc : Text → Text) (policy : DetectorPolicy) :
    List Text :=
  (policy.targetReadings.map (normalizeReading nfkc)).filter fun value => !value.isEmpty

/-- `DetectionReport`. -/
structure DetectionReport where
  backend : DetectorBackendKind
  matchedBackend : Text
  matchedReadings : List Text
  sequenceHits : ℕ
  kanjiHits : ℕ
  totalCount : ℕ
  specialPhraseHit : Bool
  tokenCount : ℕ
  deriving DecidableEq

/-- `DetectionReport::backend_count_for_sandbox`. -/
def DetectionReport.backendCountForSandbox (report : DetectionReport) : ℕ := report.kanjiHits

/-- `Box<dyn MessageDetector>`: what `detect` answers. -/
abbrev MessageDetector := Text → DetectionReport

/-! ### Literal patterns -/

/-- `count_non_overlapping`; an ASCII pattern is searched for in any case. -/
def countNonOverlapping (content pattern : Text) : ℕ :=
  if pattern = [] then 0
  else if isAscii pattern then
    Scan.countMatches (toAsciiLowercase pattern) (toAsciiLowercase content)
  else Scan.countMatches pattern content

/-- `count_literal_patterns`. -/
def countLiteralPatterns (content : Text) (patterns : List Text) : ℕ :=
  ((patterns.filter fun pattern => !pattern.isEmpty).map (countNonOverlapping content)).sum

/-! ### Tokens -/

/-- A token of the tokenizer: its surface, and the details that hold the reading and the
pronunciation. -/
structure Token where
  surface : Text
  detail7 : Option Text
  detail8 : Option Text
  deriving DecidableEq

/-- What the tokenizer answers behind its lock. -/
inductive TokenizerResult
  | poisoned
  | failed
  | tokens (l : List Token)

/-- The readings a token is compared with. -/
def Token.candidates (nfkc : Text → Text) (token : Token) : List Text :=
  ((token.detail7.toList ++ token.detail8.toList ++ [token.surface]).map
    (normalizeReading nfkc)).filter fun value => !value.isEmpty

/-- The first target a candidate reading contains; targets that the surface shows are skipped. -/
def matchedTarget (targets : List Text) (normalizedSurface normalized : Text) : Option Text :=
  targets.find? fun target =>
    !(!normalizedSurface.isEmpty && contains normalizedSurface target) &&
      (!target.isEmpty && contains normalized target)

/-- The targets a token hits, one for each candidate reading at most. -/
def Token.hits (nfkc : Text → Text) (targets : List Text) (token : Token) : List Text :=
  (token.candidates nfkc).filterMap (matchedTarget targets (normalizeReading nfkc token.surface))

/-- `BTreeSet::insert`. -/
def sortedInsert (value : Text) : List Text → List Text
  | [] => [value]
  | x :: xs =>
      if value = x then x :: xs
      else if value < x then value :: x :: xs
      else x :: sortedInsert value xs

/-- `MorphologicalReadingDetector`. -/
structure MorphologicalReadingDetector where
  nfkc : Text → Text
  policy : DetectorPolicy
  tokenize : Text → TokenizerResult

/-- `MorphologicalReadingDetector::detect`. -/
def MorphologicalReadingDetector.detect (self : MorphologicalReadingDetector) : MessageDetector :=
  fun content =>
    let sequenceHits := countLiteralPatterns content self.policy.literalSequencePatterns
    let specialPhraseHit :=
      self.policy.specialPhrases.any fun phrase => !phrase.isEmpty && contains content phrase
    let report (hits : List Text) (tokenCount : ℕ) : DetectionReport :=
      { backend := .morphologicalReading
        matchedBackend := "morphological_reading".toList
        matchedReadings := hits.foldl (fun set target => sortedInsert target set) []
        sequenceHits := sequenceHits
        kanjiHits := hits.length
        totalCount := sequenceHits + hits.length
        specialPhraseHit := specialPhraseHit
        tokenCount := tokenCount }
    match self.tokenize content with
    | .poisoned | .failed => report [] 0
    | .tokens tokens =>
        report (tokens.flatMap
          (Token.hits self.nfkc (self.policy.normalizedTargetReadings self.nfkc))) tokens.length

section Detect

variable (d : MorphologicalReadingDetector) (content : Text)

theorem detect_totalCount :
    (d.detect content).totalCount =
      (d.detect content).sequenceHits + (d.detect content).kanjiHits := by
  unfold MorphologicalReadingDetector.detect
  cases d.tokenize content <;> rfl

theorem detect_sequenceHits :
    (d.detect content).sequenceHits =
      countLiteralPatterns content d.policy.literalSequencePatterns := by
  unfold MorphologicalReadingDetector.detect
  cases d.tokenize content <;> rfl

theorem detect_specialPhraseHit :
    (d.detect content).specialPhraseHit =
      d.policy.specialPhrases.any fun phrase => !phrase.isEmpty && contains content phrase := by
  unfold MorphologicalReadingDetector.detect
  cases d.tokenize content <;> rfl

theorem Token.hits_length_le (nfkc : Text → Text) (targets : List Text) (token : Token) :
    (token.hits nfkc targets).length ≤ 3 := by
  have h7 : token.detail7.toList.length ≤ 1 := by cases token.detail7 <;> simp
  have h8 : token.detail8.toList.length ≤ 1 := by cases token.detail8 <;> simp
  calc (token.hits nfkc targets).length
      ≤ (token.candidates nfkc).length := List.length_filterMap_le _ _
    _ ≤ ((token.detail7.toList ++ token.detail8.toList ++ [token.surface]).map
          (normalizeReading nfkc)).length := List.length_filter_le _ _
    _ ≤ 3 := by
      simp only [List.length_map, List.length_append, List.length_singleton]
      omega

/-- A token is hit three times at most: by its reading, its pronunciation and its surface. -/
theorem detect_kanjiHits_le : (d.detect content).kanjiHits ≤ 3 * (d.detect content).tokenCount := by
  unfold MorphologicalReadingDetector.detect
  cases h : d.tokenize content with
  | poisoned => exact Nat.le_refl 0
  | failed => exact Nat.le_refl 0
  | tokens tokens =>
    simp only [List.length_flatMap]
    have := List.sum_le_card_nsmul (tokens.map fun t => (t.hits d.nfkc
      (d.policy.normalizedTargetReadings d.nfkc)).length) 3 (by
        intro n hn
        obtain ⟨t, -, rfl⟩ := List.mem_map.1 hn
        exact t.hits_length_le _ _)
    simpa [Nat.mul_comm] using this

end Detect

/-! ### Literal patterns against the counter -/

theorem toLower_eq_o (c : Char) : (c.toLower == 'o') = isAsciiO c := by
  have hO : c = 'O' ↔ c.toNat = 79 := Char.toNat_inj.symm
  have ho : c = 'o' ↔ c.toNat = 111 := Char.toNat_inj.symm
  have hl : c.toLower = 'o' ↔ c.toLower.toNat = 111 := Char.toNat_inj.symm
  rw [Bool.eq_iff_iff]
  simp only [isAsciiO, beq_iff_eq, Bool.or_eq_true, ho, hO, hl, toLower_toNat]
  split_ifs <;> omega

theorem countNonOverlapping_hiragana (s : Text) :
    countNonOverlapping s ['お', 'お'] = Scan.pairScan (fun c d => c == 'お' && d == 'お') s := by
  rw [countNonOverlapping, if_neg (by decide), if_neg (by decide), Scan.countMatches_pair]

theorem countNonOverlapping_katakana (s : Text) :
    countNonOverlapping s ['オ', 'オ'] = Scan.pairScan (fun c d => c == 'オ' && d == 'オ') s := by
  rw [countNonOverlapping, if_neg (by decide), if_neg (by decide), Scan.countMatches_pair]

theorem countNonOverlapping_ascii (s : Text) :
    countNonOverlapping s ['o', 'o'] = Scan.pairScan (fun c d => isAsciiO c && isAsciiO d) s := by
  have hlow : toAsciiLowercase ['o', 'o'] = ['o', 'o'] := by decide
  rw [countNonOverlapping, if_neg (by decide), if_pos (by decide), hlow, Scan.countMatches_pair,
    toAsciiLowercase, Scan.pairScan_map]
  exact Scan.pairScan_congr (fun c d => by rw [toLower_eq_o, toLower_eq_o]) s

/-- The three patterns of the counter. -/
def ooPatterns : List Text := ["おお".toList, "オオ".toList, "oo".toList]

/-- Searching for the three patterns counts what the pass over the characters counts. -/
theorem countLiteralPatterns_ooPatterns (s : Text) :
    countLiteralPatterns s ooPatterns = countOoSequences s := by
  show countNonOverlapping s ['お', 'お'] + (countNonOverlapping s ['オ', 'オ'] +
    (countNonOverlapping s ['o', 'o'] + 0)) = _
  rw [countNonOverlapping_hiragana, countNonOverlapping_katakana, countNonOverlapping_ascii,
    countOoSequences_eq_sum]
  omega

end OoBot
