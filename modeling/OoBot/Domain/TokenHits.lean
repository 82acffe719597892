import OoBot.Domain.LiteralCount

/-!
# How often a token is counted

A token is compared by its reading, its pronunciation and its surface.  Each of the three is a hit of
its own, with the first target that it contains and that the surface does not contain; so the surface
itself is never one, and `tokenHits_eq` says that a token is hit once for its reading and once for its
pronunciation.

* When no token is counted twice: `token_hit_once_iff`.
* When no token is passed over for a literal pattern that does not occur: `matching_token_kept_iff`.
* When no token is counted on top of a literal pattern: `literal_token_silent_iff`.
-/

namespace OoBot

/-- The tokens that `detect` looks at. -/
def TokenizerResult.seen : TokenizerResult → List Token
  | .poisoned | .failed => []
  | .tokens l => l

namespace MorphologicalReadingDetector

/-- `normalized_target_readings`. -/
def targets (self : MorphologicalReadingDetector) : List Text :=
  self.policy.normalizedTargetReadings self.nfkc

/-- The hits that a token contributes. -/
def tokenHits (self : MorphologicalReadingDetector) (token : Token) : ℕ :=
  (token.hits self.nfkc self.targets).length

/-- A normalized candidate contains a target. -/
def containsTarget (self : MorphologicalReadingDetector) (value : Text) : Bool :=
  self.targets.any fun target => contains (normalizeReading self.nfkc value) target

/-- A normalized candidate contains a target that the surface does not. -/
def addsTarget (self : MorphologicalReadingDetector) (surface value : Text) : Bool :=
  self.targets.any fun target => contains (normalizeReading self.nfkc value) target &&
    !contains (normalizeReading self.nfkc surface) target

/-- The reading of a token contains a target that its surface does not. -/
def readingAdds (self : MorphologicalReadingDetector) (token : Token) : Bool :=
  token.detail7.any (self.addsTarget token.surface)

/-- The pronunciation of a token contains a target that its surface does not. -/
def pronunciationAdds (self : MorphologicalReadingDetector) (token : Token) : Bool :=
  token.detail8.any (self.addsTarget token.surface)

/-- The reading, the pronunciation or the surface of a token contains a target. -/
def matchesTarget (self : MorphologicalReadingDetector) (token : Token) : Bool :=
  token.detail7.any self.containsTarget || token.detail8.any self.containsTarget ||
    self.containsTarget token.surface

variable (d : MorphologicalReadingDetector) (content : Text)

theorem detect_kanjiHits :
    (d.detect content).kanjiHits = ((d.tokenize content).seen.map d.tokenHits).sum := by
  unfold detect
  cases d.tokenize content with
  | poisoned => rfl
  | failed => rfl
  | tokens l => exact List.length_flatMap

theorem detect_tokenCount :
    (d.detect content).tokenCount = (d.tokenize content).seen.length := by
  unfold detect
  cases d.tokenize content <;> rfl

theorem targets_ne_nil {target : Text} (h : target ∈ d.targets) : target ≠ [] := by
  have hne := (List.mem_filter.1 h).2
  simpa using hne

/-- Nothing contains a target but a text with letters. -/
theorem contains_nil_target {target : Text} (h : target ∈ d.targets) :
    contains [] target = false := by
  have hne := d.targets_ne_nil h
  simpa [contains] using hne

/-- A candidate is a hit exactly when it contains a target that the surface does not. -/
theorem matchedTarget_isSome (surface value : Text) :
    (matchedTarget d.targets (normalizeReading d.nfkc surface)
      (normalizeReading d.nfkc value)).isSome = d.addsTarget surface value := by
  unfold matchedTarget addsTarget
  rw [Bool.eq_iff_iff, List.find?_isSome, List.any_eq_true]
  refine exists_congr fun target => and_congr_right fun hmem => ?_
  have hne : target.isEmpty = false := by simpa using d.targets_ne_nil hmem
  have hguard : (!(normalizeReading d.nfkc surface).isEmpty &&
      contains (normalizeReading d.nfkc surface) target) =
        contains (normalizeReading d.nfkc surface) target := by
    cases hs : normalizeReading d.nfkc surface with
    | nil => simp [d.contains_nil_target hmem]
    | cons c s => rfl
  rw [hguard, hne, Bool.not_false, Bool.true_and, Bool.and_comm]

theorem matchedTarget_eq_none {surface value : Text} (h : d.addsTarget surface value = false) :
    matchedTarget d.targets (normalizeReading d.nfkc surface) (normalizeReading d.nfkc value) =
      none := by
  rw [← Option.not_isSome_iff_eq_none, matchedTarget_isSome, h]
  exact Bool.false_ne_true

/-- The candidate readings that are hits, the empty ones included. -/
theorem hits_eq (token : Token) :
    token.hits d.nfkc d.targets =
      (token.detail7.toList ++ token.detail8.toList ++ [token.surface]).filterMap fun value =>
        matchedTarget d.targets (normalizeReading d.nfkc token.surface)
          (normalizeReading d.nfkc value) := by
  unfold Token.hits Token.candidates
  rw [List.filterMap_filter, List.filterMap_map]
  refine List.filterMap_congr fun value _ => ?_
  simp only [Function.comp_apply]
  cases hv : normalizeReading d.nfkc value with
  | cons c s => rfl
  | nil =>
    -- an empty candidate contains no target
    have hadds : d.addsTarget token.surface value = false := by
      unfold addsTarget
      rw [List.any_eq_false]
      intro target hmem
      rw [hv, d.contains_nil_target hmem]
      simp
    have hnone := d.matchedTarget_eq_none hadds
    rw [hv] at hnone
    rw [hnone]
    rfl

/-- The surface of a token is never a hit. -/
theorem addsTarget_self (surface : Text) : d.addsTarget surface surface = false := by
  unfold addsTarget
  simp

theorem length_filterMap_toList {α β : Type} (f : α → Option β) (o : Option α) :
    (o.toList.filterMap f).length = if o.any fun a => (f a).isSome then 1 else 0 := by
  cases o with
  | none => rfl
  | some a => cases h : f a <;> simp [h]

/-- **The hits of a token.**  One for its reading and one for its pronunciation, if they contain a
target that the surface does not contain. -/
theorem tokenHits_eq (token : Token) :
    d.tokenHits token =
      (if d.readingAdds token then 1 else 0) + (if d.pronunciationAdds token then 1 else 0) := by
  unfold tokenHits readingAdds pronunciationAdds
  have hsurface : matchedTarget d.targets (normalizeReading d.nfkc token.surface)
      (normalizeReading d.nfkc token.surface) = none :=
    d.matchedTarget_eq_none (d.addsTarget_self token.surface)
  rw [hits_eq, List.filterMap_append, List.filterMap_append, List.length_append,
    List.length_append, length_filterMap_toList, length_filterMap_toList]
  simp only [matchedTarget_isSome, List.filterMap_cons, hsurface, List.filterMap_nil,
    List.length_nil, Nat.add_zero]

/-! ### Counted once -/

/-- **When a token is counted once at most.**  Exactly when no token has both a reading and a
pronunciation that contain a target which its surface does not contain. -/
theorem token_hit_once_iff :
    ((d.detect content).kanjiHits ≤ (d.detect content).tokenCount ∧
        ∀ token ∈ (d.tokenize content).seen, d.tokenHits token ≤ 1) ↔
      ∀ token ∈ (d.tokenize content).seen,
        ¬ (d.readingAdds token = true ∧ d.pronunciationAdds token = true) := by
  have htoken : ∀ token, d.tokenHits token ≤ 1 ↔
      ¬ (d.readingAdds token = true ∧ d.pronunciationAdds token = true) := by
    intro token
    rw [tokenHits_eq]
    cases d.readingAdds token <;> cases d.pronunciationAdds token <;> simp
  simp only [← htoken]
  refine and_iff_right_of_imp fun h => ?_
  rw [detect_kanjiHits, detect_tokenCount]
  have hsum := List.sum_le_card_nsmul ((d.tokenize content).seen.map d.tokenHits) 1 (by
    intro n hn
    obtain ⟨token, hmem, rfl⟩ := List.mem_map.1 hn
    exact h token hmem)
  simpa using hsum

/-- A verb whose reading and pronunciation are written the same way. -/
def oouToken : Token := ⟨"覆う".toList, some "オオウ".toList, some "オオウ".toList⟩

/-- With the canonical policy it is counted twice. -/
theorem token_hit_twice :
    ((⟨id, canonicalDetectorPolicy, fun _ => .tokens [oouToken]⟩ :
        MorphologicalReadingDetector).detect "覆う".toList).kanjiHits = 2 ∧
      ((⟨id, canonicalDetectorPolicy, fun _ => .tokens [oouToken]⟩ :
        MorphologicalReadingDetector).detect "覆う".toList).tokenCount = 1 := by
  decide

/-! ### Not passed over -/

/-- **When no matching token is lost.**  In a message without literal patterns every token that matches
a target is counted exactly when every such token has a reading or a pronunciation with a target that
its surface does not contain. -/
theorem matching_token_kept_iff :
    ((d.detect content).sequenceHits = 0 → ∀ token ∈ (d.tokenize content).seen,
        d.matchesTarget token = true → 1 ≤ d.tokenHits token) ↔
      (showsLiteral d.policy.literalSequencePatterns content = false →
        ∀ token ∈ (d.tokenize content).seen, d.matchesTarget token = true →
          d.readingAdds token = true ∨ d.pronunciationAdds token = true) := by
  have htoken : ∀ token, 1 ≤ d.tokenHits token ↔
      d.readingAdds token = true ∨ d.pronunciationAdds token = true := by
    intro token
    rw [tokenHits_eq]
    cases d.readingAdds token <;> cases d.pronunciationAdds token <;> simp
  simp only [← htoken]
  rw [detect_sequenceHits, countLiteralPatterns_eq_zero_iff]

/-- NFKC on the letters of `ｵｵ`. -/
def foldHalfWidth (s : Text) : Text := s.map fun c => if c = 'ｵ' then 'オ' else c

/-- With the canonical policy the target in half-width letters is not a literal pattern, and not
counted either. -/
theorem matching_token_lost :
    ((⟨foldHalfWidth, canonicalDetectorPolicy, fun s => .tokens [⟨s, none, none⟩]⟩ :
        MorphologicalReadingDetector).detect "ｵｵ".toList).sequenceHits = 0 ∧
      (⟨foldHalfWidth, canonicalDetectorPolicy, fun s => .tokens [⟨s, none, none⟩]⟩ :
        MorphologicalReadingDetector).matchesTarget ⟨"ｵｵ".toList, none, none⟩ = true ∧
      ((⟨foldHalfWidth, canonicalDetectorPolicy, fun s => .tokens [⟨s, none, none⟩]⟩ :
        MorphologicalReadingDetector).detect "ｵｵ".toList).kanjiHits = 0 := by
  decide

/-! ### Not counted on top of a literal pattern -/

/-- **When a token with a literal pattern is not counted as well.**  Exactly when the reading and the
pronunciation of every token whose surface shows a literal pattern contain no target that the surface
does not contain. -/
theorem literal_token_silent_iff :
    (∀ token ∈ (d.tokenize content).seen,
        showsLiteral d.policy.literalSequencePatterns token.surface = true →
          d.tokenHits token = 0) ↔
      ∀ token ∈ (d.tokenize content).seen,
        showsLiteral d.policy.literalSequencePatterns token.surface = true →
          d.readingAdds token = false ∧ d.pronunciationAdds token = false := by
  have htoken : ∀ token, d.tokenHits token = 0 ↔
      d.readingAdds token = false ∧ d.pronunciationAdds token = false := by
    intro token
    rw [tokenHits_eq]
    cases d.readingAdds token <;> cases d.pronunciationAdds token <;> simp
  simp only [htoken]

/-- The canonical configuration with the literal pattern `大`. -/
def bigConfig : StartupConfig ℚ :=
  { canonicalStartupConfig ℚ with
    detector := { canonicalDetectorConfig with literalSequencePatterns := ["大".toList] } }

/-- The detector of that configuration, over a tokenizer that knows one adjective. -/
def bigDetector : MorphologicalReadingDetector :=
  ⟨id, bigConfig.detector.asPolicy, fun _ =>
    .tokens [⟨"大きい".toList, some "オオキイ".toList, some "オーキイ".toList⟩]⟩

/-- A configuration that is accepted, and a token that is counted on top of its pattern. -/
theorem literal_token_counted :
    validateConfig bigConfig = .ok () ∧
      showsLiteral bigDetector.policy.literalSequencePatterns "大きい".toList = true ∧
      (bigDetector.detect "大きい".toList).sequenceHits = 1 ∧
      (bigDetector.detect "大きい".toList).kanjiHits = 1 ∧
      (bigDetector.detect "大きい".toList).totalCount = 2 := by
  decide

end MorphologicalReadingDetector

end OoBot
