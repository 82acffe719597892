import OoBot.Config
import OoBot.Lib.Overlap

/-!
# What the literal patterns count

* The code of `count_non_overlapping` cuts the bytes of the message at a cursor and searches in what
  is left.  `countNonOverlappingBytes` is that loop, with the panics of its slices; it agrees with
  `countNonOverlapping`, which works on characters, and gives the size of the largest selection of
  disjoint occurrences (`count_non_overlapping_maximal`).
* `count_literal_patterns` adds the counts of the patterns.  The hits of a message are disjoint, on
  every message, exactly when no two entries of the list can overlap (`literal_hits_disjoint_iff`).
-/

namespace OoBot

/-! ### The loop on bytes -/

/-- `str::is_char_boundary`. -/
def isCharBoundary (bytes : List UInt8) (index : ℕ) : Bool :=
  index == 0 ||
    match bytes[index]? with
    | some b => !isCont b
    | none => index == bytes.length

/-- `haystack[cursor..]`, which panics inside a character and behind the end. -/
def sliceFrom (bytes : List UInt8) (cursor : ℕ) : Option (List UInt8) :=
  if isCharBoundary bytes cursor then some (bytes.drop cursor) else none

/-- The loop of `count_non_overlapping` on `fuel` rounds at most; there is no result when a slice
panics or the rounds run out. -/
def countLoop (haystack needle : List UInt8) : ℕ → ℕ → ℕ → Option ℕ
  | 0, _, _ => none
  | fuel + 1, count, cursor =>
      match sliceFrom haystack cursor with
      | none => none
      | some rest =>
          match Scan.findSub needle rest with
          | none => some count
          | some found =>
              let count := count + 1
              let cursor := cursor + found + needle.length
              if cursor ≥ haystack.length then some count
              else countLoop haystack needle fuel count cursor

/-- The pair `(haystack, needle)` of `count_non_overlapping`. -/
def foldCase (content pattern : Text) : Text × Text :=
  if isAscii pattern then (toAsciiLowercase content, toAsciiLowercase pattern)
  else (content, pattern)

/-- `count_non_overlapping` on bytes, with `fuel` rounds at most. -/
def countNonOverlappingBytes (fuel : ℕ) (content pattern : Text) : Option ℕ :=
  if pattern = [] then some 0
  else
    countLoop (utf8 (foldCase content pattern).1) (utf8 (foldCase content pattern).2) fuel 0 0

theorem countNonOverlapping_eq_fold {pattern : Text} (h : pattern ≠ []) (content : Text) :
    countNonOverlapping content pattern =
      Scan.countMatches (foldCase content pattern).2 (foldCase content pattern).1 := by
  unfold countNonOverlapping foldCase
  rw [if_neg h]
  split_ifs <;> rfl

theorem foldCase_ne_nil {pattern : Text} (h : pattern ≠ []) (content : Text) :
    (foldCase content pattern).2 ≠ [] := by
  unfold foldCase toAsciiLowercase
  split_ifs
  · simpa using h
  · exact h

theorem utf8_ne_nil {s : Text} (h : s ≠ []) : utf8 s ≠ [] := by
  intro hnil
  exact h (utf8_injective (hnil.trans utf8_nil.symm))

theorem utf8Len_append (s t : Text) : utf8Len (s ++ t) = utf8Len s + utf8Len t := by
  simp [utf8Len]

/-- No text starts inside the encoding of a character. -/
theorem not_utf8_prefix_of_isCont {needle : Text} (hn : needle ≠ []) {b : UInt8}
    (hb : isCont b = true) (r : List UInt8) : ¬ utf8 needle <+: b :: r := by
  intro h
  cases needle with
  | nil => exact hn rfl
  | cons c s =>
    obtain ⟨lead, tl, henc, hlead, -⟩ := utf8EncodeChar_lead c
    rw [utf8_cons, henc, List.cons_append, List.cons_prefix_cons] at h
    rw [h.1, hb] at hlead
    cases hlead

/-- Searching among the bytes finds what searching among the characters finds. -/
theorem findSub_utf8 {needle : Text} (hn : needle ≠ []) (s : Text) :
    Scan.findSub (utf8 needle) (utf8 s) =
      (Scan.findSub needle s).map fun k => utf8Len (s.take k) := by
  induction s with
  | nil => simp [Scan.findSub, hn, utf8_ne_nil hn]
  | cons c s ih =>
    by_cases hm : needle <+: c :: s
    · rw [Scan.findSub_of_match hm, Scan.findSub_of_match ((utf8_prefix_iff _ _).2 hm)]
      rfl
    · obtain ⟨lead, tl, henc, -, htl⟩ := utf8EncodeChar_lead c
      have hskip : ∀ i < (String.utf8EncodeChar c).length,
          ¬ utf8 needle <+: (String.utf8EncodeChar c).drop i ++ utf8 s := by
        intro i hi
        cases i with
        | zero =>
          rw [List.drop_zero, ← utf8_cons, utf8_prefix_iff]
          exact hm
        | succ i =>
          -- the rest of a character is made of continuation bytes
          rw [henc, List.length_cons] at hi
          have hi' : i < tl.length := by omega
          rw [henc, List.drop_succ_cons, List.drop_eq_getElem_cons hi', List.cons_append]
          exact not_utf8_prefix_of_isCont hn (htl _ (List.getElem_mem hi')) _
      rw [utf8_cons, Scan.findSub_append_of_not_match hskip, ih,
        Scan.findSub_cons_of_not_match hm, Option.map_map, Option.map_map]
      congr 1
      funext k
      simp only [Function.comp_apply, List.take_succ_cons, utf8Len_cons,
        String.length_utf8EncodeChar]
      omega

/-- A cursor between two characters is a boundary, and what follows it are the bytes of the rest. -/
theorem sliceFrom_utf8 (before rest : Text) :
    sliceFrom (utf8 (before ++ rest)) (utf8Len before) = some (utf8 rest) := by
  have hdrop : (utf8 (before ++ rest)).drop (utf8Len before) = utf8 rest := by
    rw [utf8_append, ← utf8_length, List.drop_left]
  have hboundary : isCharBoundary (utf8 (before ++ rest)) (utf8Len before) = true := by
    unfold isCharBoundary
    rw [Bool.or_eq_true]
    refine Or.inr ?_
    cases rest with
    | nil =>
      rw [List.append_nil, ← utf8_length, List.getElem?_eq_none (Nat.le_refl _)]
      exact beq_self_eq_true _
    | cons c s =>
      obtain ⟨lead, tl, henc, hlead, -⟩ := utf8EncodeChar_lead c
      have hget : (utf8 (before ++ c :: s))[utf8Len before]? = some lead := by
        rw [← List.head?_drop, hdrop, utf8_cons, henc]
        rfl
      rw [hget]
      simp [hlead]
  rw [sliceFrom, if_pos hboundary, hdrop]

/-- From a cursor between two characters, with enough rounds, the loop counts the matches in the
rest. -/
theorem countLoop_utf8 {needle : Text} (hn : needle ≠ []) (fuel count : ℕ) (before rest : Text)
    (hfuel : rest.length < fuel) :
    countLoop (utf8 (before ++ rest)) (utf8 needle) fuel count (utf8Len before) =
      some (count + Scan.countMatches needle rest) := by
  induction fuel generalizing count before rest with
  | zero => cases hfuel
  | succ fuel ih =>
    rw [countLoop, sliceFrom_utf8, Scan.countMatches_eq hn]
    simp only [findSub_utf8 hn]
    cases hfind : Scan.findSub needle rest with
    | none => rfl
    | some k =>
      simp only [Option.map_some]
      have hpre := Scan.prefix_of_findSub hfind
      have hpos := List.length_pos_iff.2 hn
      have hfit : k + needle.length ≤ rest.length := by
        have := hpre.length_le
        rw [List.length_drop] at this
        omega
      -- the cursor moves behind the match
      have htake : rest.take (k + needle.length) = rest.take k ++ needle :=
        Scan.take_of_findSub hfind
      have hcursor : utf8Len before + utf8Len (rest.take k) + (utf8 needle).length =
          utf8Len (before ++ rest.take (k + needle.length)) := by
        rw [htake, utf8Len_append, utf8Len_append, utf8_length]
        omega
      have hsplit : before ++ rest =
          (before ++ rest.take (k + needle.length)) ++ rest.drop (k + needle.length) := by
        rw [List.append_assoc, List.take_append_drop]
      rw [hcursor, hsplit]
      generalize hrest : rest.drop (k + needle.length) = rest'
      have hlen : rest'.length < fuel := by
        rw [← hrest, List.length_drop]
        omega
      split_ifs with hend
      · -- nothing is left
        have hnil : rest' = [] := by
          simp only [utf8_length, utf8Len_append] at hend
          have := length_le_utf8Len rest'
          exact List.eq_nil_of_length_eq_zero (by omega)
        rw [hnil, Scan.countMatches_nil hn]
      · rw [ih _ _ _ hlen]
        congr 1
        omega

/-- With as many rounds as the message has bytes, and one more, the loop ends with the count. -/
theorem countNonOverlappingBytes_eq {fuel : ℕ} {content : Text} (pattern : Text)
    (hfuel : utf8Len content < fuel) :
    countNonOverlappingBytes fuel content pattern = some (countNonOverlapping content pattern) := by
  unfold countNonOverlappingBytes
  by_cases hn : pattern = []
  · rw [if_pos hn, countNonOverlapping, if_pos hn]
  · have hlen : (foldCase content pattern).1.length = content.length := by
      unfold foldCase toAsciiLowercase
      split_ifs
      · exact List.length_map _
      · rfl
    have hchars := length_le_utf8Len content
    have hloop := countLoop_utf8 (foldCase_ne_nil hn content) fuel 0 []
      (foldCase content pattern).1 (by omega)
    rw [List.nil_append, utf8Len_nil, Nat.zero_add] at hloop
    rw [if_neg hn, hloop, countNonOverlapping_eq_fold hn]

/-- An entry of the list occurs in the text. -/
def showsLiteral (patterns : List Text) (s : Text) : Bool :=
  patterns.any fun pattern =>
    !pattern.isEmpty && contains (foldCase s pattern).1 (foldCase s pattern).2

/-- Nothing is counted exactly where no entry occurs. -/
theorem countLiteralPatterns_eq_zero_iff (content : Text) (patterns : List Text) :
    countLiteralPatterns content patterns = 0 ↔ showsLiteral patterns content = false := by
  have hentry : ∀ p : Text, p ≠ [] → (countNonOverlapping content p = 0 ↔
      contains (foldCase content p).1 (foldCase content p).2 = false) := by
    intro p hp
    have hpos := Scan.countMatches_pos_iff (foldCase_ne_nil hp content) (foldCase content p).1
    rw [countNonOverlapping_eq_fold hp, contains, decide_eq_false_iff_not, ← hpos, Nat.not_lt,
      Nat.le_zero]
  unfold countLiteralPatterns showsLiteral
  rw [List.sum_eq_zero_iff, List.any_eq_false]
  constructor
  · intro h p hp
    by_cases hnil : p = []
    · simp [hnil]
    · have hzero := h _ (List.mem_map.2 ⟨p, List.mem_filter.2 ⟨hp, by simpa using hnil⟩, rfl⟩)
      simp [(hentry p hnil).1 hzero]
  · intro h n hn
    obtain ⟨p, hp, rfl⟩ := List.mem_map.1 hn
    obtain ⟨hp, hne⟩ := List.mem_filter.1 hp
    have hnil : p ≠ [] := by simpa using hne
    have hnot := h p hp
    rw [hne, Bool.true_and, Bool.not_eq_true] at hnot
    exact (hentry p hnil).2 hnot

/-! ### Occurrences -/

/-- A text is an occurrence of a pattern; an ASCII pattern occurs in any case. -/
def Occurs (pattern s : Text) : Prop :=
  if isAscii pattern then toAsciiLowercase s = toAsciiLowercase pattern else s = pattern

instance (pattern s : Text) : Decidable (Occurs pattern s) := by
  unfold Occurs
  infer_instance

/-- The occurrences of a pattern are those of the needle in the haystack. -/
theorem packing_occurs_iff (pattern content : Text) (l : List Span) :
    Packing (Occurs pattern) content l ↔
      Packing (· = (foldCase content pattern).2) (foldCase content pattern).1 l := by
  unfold Occurs foldCase
  split_ifs with ha
  · have hlen : (toAsciiLowercase content).length = content.length := List.length_map _
    have htext : ∀ v : Span, v.text (toAsciiLowercase content) = toAsciiLowercase (v.text content) :=
      Span.text_map _ content
    constructor
    · rintro ⟨hin, hfits, hdis⟩
      exact ⟨by rwa [hlen], fun v hv => (htext v).trans (hfits v hv), hdis⟩
    · rintro ⟨hin, hfits, hdis⟩
      exact ⟨by rwa [hlen] at hin, fun v hv => (htext v).symm.trans (hfits v hv), hdis⟩
  · exact Iff.rfl

/-- The count is the size of the largest selection of disjoint occurrences. -/
theorem countNonOverlapping_isGreatest {pattern : Text} (h : pattern ≠ []) (content : Text) :
    IsGreatest {n | ∃ l, Packing (Occurs pattern) content l ∧ l.length = n}
      (countNonOverlapping content pattern) := by
  simp only [packing_occurs_iff]
  rw [countNonOverlapping_eq_fold h]
  exact Scan.countMatches_isGreatest (foldCase_ne_nil h content) _

/-- No selection of disjoint occurrences is larger than the count. -/
theorem length_le_countNonOverlapping {pattern content : Text} (h : pattern ≠ []) {l : List Span}
    (hl : Packing (Occurs pattern) content l) : l.length ≤ countNonOverlapping content pattern :=
  (countNonOverlapping_isGreatest h content).2 ⟨l, hl, rfl⟩

/-- The hits of one pattern. -/
def hitSpans (content pattern : Text) : List Span :=
  Scan.spans (foldCase content pattern).2 (foldCase content pattern).1

theorem packing_hitSpans {pattern : Text} (h : pattern ≠ []) (content : Text) :
    Packing (Occurs pattern) content (hitSpans content pattern) :=
  (packing_occurs_iff _ _ _).2 (Scan.packing_spans (foldCase_ne_nil h content) _)

theorem length_hitSpans {pattern : Text} (h : pattern ≠ []) (content : Text) :
    (hitSpans content pattern).length = countNonOverlapping content pattern := by
  rw [countNonOverlapping_eq_fold h]
  exact Scan.length_spans (foldCase_ne_nil h content) _

/-- **What `count_non_overlapping` returns.**  With a round for every byte and one more the loop ends,
no slice panics, and the result is the size of the largest selection of pairwise disjoint occurrences
of the pattern. -/
theorem count_non_overlapping_maximal (content pattern : Text) (h : pattern ≠ []) :
    ∃ count, (∀ fuel, utf8Len content < fuel →
        countNonOverlappingBytes fuel content pattern = some count) ∧
      IsGreatest {n | ∃ l, Packing (Occurs pattern) content l ∧ l.length = n} count := by
  refine ⟨countNonOverlapping content pattern, fun fuel hfuel => ?_, ?_⟩
  · exact countNonOverlappingBytes_eq pattern hfuel
  · exact countNonOverlapping_isGreatest h content

/-- A pattern that overlaps itself, in a text with characters of several lengths. -/
theorem count_non_overlapping_maximal_ooo :
    ∃ count, (∀ fuel, utf8Len "おOoOé".toList < fuel →
        countNonOverlappingBytes fuel "おOoOé".toList "oo".toList = some count) ∧
      IsGreatest {n | ∃ l, Packing (Occurs "oo".toList) "おOoOé".toList l ∧ l.length = n} count :=
  count_non_overlapping_maximal "おOoOé".toList "oo".toList (by decide)

example : countNonOverlappingBytes 9 "おOoOé".toList "oo".toList = some 1 := by decide

/-! ### Patterns that can overlap -/

/-- A letter of a text stands for the letter `c` of a pattern. -/
def letterFits (pattern : Text) (c x : Char) : Prop :=
  if isAscii pattern then c.toLower = x.toLower else c = x

/-- A letter may stand for the letters `c` and `d` of two patterns. -/
def lettersAgree (p q : Text) (c d : Char) : Bool :=
  if isAscii p || isAscii q then c.toLower == d.toLower else c == d

theorem letterFits_self (pattern : Text) (c : Char) : letterFits pattern c c := by
  unfold letterFits
  split_ifs <;> rfl

theorem lettersAgree_iff (p q : Text) (c d : Char) :
    lettersAgree p q c d = true ↔ ∃ x, letterFits p c x ∧ letterFits q d x := by
  unfold lettersAgree letterFits
  cases hp : isAscii p <;> cases hq : isAscii q
  · constructor
    · exact fun h => ⟨d, by simpa using h, rfl⟩
    · rintro ⟨x, rfl, rfl⟩
      exact beq_self_eq_true d
  · -- the letter of the pattern that is not ASCII is the only one to choose
    constructor
    · intro h
      have heq : c.toLower = d.toLower := by simpa using h
      exact ⟨c, rfl, heq.symm⟩
    · rintro ⟨x, rfl, hd⟩
      simpa using hd.symm
  · simp
  · simp only [Bool.or_self, if_true, beq_iff_eq]
    constructor
    · exact fun h => ⟨d, h, rfl⟩
    · rintro ⟨x, hc, hd⟩
      exact hc.trans hd.symm

theorem occurs_iff (pattern s : Text) :
    Occurs pattern s ↔ List.Forall₂ (letterFits pattern) pattern s := by
  unfold Occurs letterFits
  split_ifs
  · rw [eq_comm, ← List.forall₂_eq_eq_eq]
    unfold toAsciiLowercase
    rw [List.forall₂_map_left_iff, List.forall₂_map_right_iff]
  · rw [List.forall₂_eq_eq_eq, eq_comm]

/-- The pattern `q` may start inside an occurrence of `p`. -/
def startsIn (p q : Text) : Bool :=
  (List.range p.length).any fun i => ((p.drop i).zip q).all fun e => lettersAgree p q e.1 e.2

/-- Two entries of the list can overlap. -/
def canOverlap (p q : Text) : Bool :=
  !p.isEmpty && !q.isEmpty && (startsIn p q || startsIn q p)

theorem startsIn_iff (p q : Text) :
    startsIn p q = true ↔ Overlap.CanStartIn (letterFits p) (letterFits q) p q := by
  unfold startsIn Overlap.CanStartIn
  simp only [List.any_eq_true, List.mem_range, List.all_eq_true, lettersAgree_iff]

/-- Where occurrences of two patterns meet, the patterns can overlap. -/
theorem canOverlap_of_meet {p q content : Text} (hp : p ≠ []) (hq : q ≠ []) {u v : Span}
    (hu : Occurs p (u.text content)) (hv : Occurs q (v.text content))
    (huin : u.stop ≤ content.length) (hvin : v.stop ≤ content.length) (h : ¬ u.Disjoint v) :
    canOverlap p q = true := by
  rw [occurs_iff] at hu hv
  have hstart : startsIn p q = true ∨ startsIn q p = true := by
    unfold Span.Disjoint at h
    rw [startsIn_iff, startsIn_iff]
    rcases Nat.le_total u.start v.start with hle | hle
    · exact Or.inl (Overlap.canStartIn_of_meet hu hv hle (by omega) huin)
    · exact Or.inr (Overlap.canStartIn_of_meet hv hu hle (by omega) hvin)
  simpa [canOverlap, hp, hq] using hstart

/-- Patterns that can overlap occur in a text that is too short for them side by side. -/
theorem exists_short_of_canOverlap {p q : Text} (h : canOverlap p q = true) :
    p ≠ [] ∧ q ≠ [] ∧ ∃ content : Text, content.length < p.length + q.length ∧
      (∃ u : Span, u.stop ≤ content.length ∧ Occurs p (u.text content)) ∧
      ∃ v : Span, v.stop ≤ content.length ∧ Occurs q (v.text content) := by
  obtain ⟨⟨hp, hq⟩, hstart⟩ : (p ≠ [] ∧ q ≠ []) ∧ (startsIn p q = true ∨ startsIn q p = true) := by
    simpa [canOverlap] using h
  have hfits : ∀ r : Text, ∀ c ∈ r, ∃ x, letterFits r c x := fun r c _ => ⟨c, letterFits_self r c⟩
  refine ⟨hp, hq, ?_⟩
  simp only [occurs_iff]
  rcases hstart with hstart | hstart
  · exact ((startsIn_iff p q).1 hstart).exists_short hq (hfits p) (hfits q)
  · obtain ⟨content, hlen, hv, hu⟩ :=
      ((startsIn_iff q p).1 hstart).exists_short hp (hfits q) (hfits p)
    exact ⟨content, by omega, hu, hv⟩

/-! ### The whole list -/

/-- The hits of all patterns. -/
def literalHits (content : Text) (patterns : List Text) : List Span :=
  (patterns.filter fun pattern => !pattern.isEmpty).flatMap (hitSpans content)

theorem mem_entries {patterns : List Text} {p : Text} :
    p ∈ patterns.filter (fun pattern => !pattern.isEmpty) ↔ p ∈ patterns ∧ p ≠ [] := by
  rw [List.mem_filter]
  simp

/-- The hits are what is counted. -/
theorem length_literalHits (content : Text) (patterns : List Text) :
    (literalHits content patterns).length = countLiteralPatterns content patterns := by
  unfold literalHits countLiteralPatterns
  rw [List.length_flatMap]
  congr 1
  refine List.map_congr_left fun p hp => ?_
  exact length_hitSpans (mem_entries.1 hp).2 content

/-- An occurrence of some entry of the list. -/
def OccursSome (patterns : List Text) (s : Text) : Prop := ∃ p ∈ patterns, p ≠ [] ∧ Occurs p s

theorem packing_occursSome_iff {patterns : List Text} {content : Text} {l : List Span} :
    Packing (OccursSome patterns) content l ↔
      Packing (fun s => ∃ p ∈ patterns.filter (fun pattern => !pattern.isEmpty), Occurs p s)
        content l := by
  simp only [mem_entries, and_assoc]
  exact Iff.rfl

/-- The hits of entries that cannot overlap are disjoint. -/
theorem packing_literalHits {patterns : List Text}
    (h : patterns.Pairwise fun p q => canOverlap p q = false) (content : Text) :
    Packing (OccursSome patterns) content (literalHits content patterns) := by
  rw [packing_occursSome_iff]
  refine Packing.flatMap (fun p hp => packing_hitSpans (mem_entries.1 hp).2 content) ?_
  refine (h.sublist List.filter_sublist).imp_of_mem fun {p q} hp hq hapart u hu v hv => ?_
  by_contra hmeet
  obtain ⟨-, hp⟩ := mem_entries.1 hp
  obtain ⟨-, hq⟩ := mem_entries.1 hq
  have hpack := packing_hitSpans hp content
  have hpack' := packing_hitSpans hq content
  have hover := canOverlap_of_meet hp hq (hpack.fits u hu) (hpack'.fits v hv) (hpack.inside u hu)
    (hpack'.inside v hv) hmeet
  rw [hapart] at hover
  cases hover

/-- Entries that can overlap are counted once too often in some text. -/
theorem exists_overcount {patterns : List Text} {p q : Text} (hsub : [p, q].Sublist patterns)
    (h : canOverlap p q = true) :
    ∃ content, ∀ l, Packing (OccursSome patterns) content l →
      l.length < countLiteralPatterns content patterns := by
  obtain ⟨hp, hq, content, hshort, ⟨u, huin, hu⟩, ⟨v, hvin, hv⟩⟩ := exists_short_of_canOverlap h
  refine ⟨content, fun l hl => ?_⟩
  by_contra hle
  have hcount : ∀ r ∈ patterns.filter (fun pattern => !pattern.isEmpty), ∀ l,
      Packing (Occurs r) content l → l.length ≤ countNonOverlapping content r :=
    fun r hr l hl => length_le_countNonOverlapping (mem_entries.1 hr).2 hl
  have hpos : ∀ {r : Text} {w : Span}, r ≠ [] → w.stop ≤ content.length →
      Occurs r (w.text content) → 0 < countNonOverlapping content r := by
    intro r w hr hin hw
    have hone : Packing (Occurs r) content [w] :=
      ⟨by simpa using hin, by simpa using hw, List.pairwise_singleton _ _⟩
    exact length_le_countNonOverlapping hr hone
  -- a packing of that size would show both entries apart from each other
  have hpairs := ((packing_occursSome_iff.1 hl).apart_of_sum_le hcount (Nat.le_of_not_lt hle)).2
  have hboth : [p, q].Sublist (patterns.filter fun pattern => !pattern.isEmpty) := by
    have hself : [p, q].filter (fun pattern => !pattern.isEmpty) = [p, q] := by
      simp [hp, hq]
    rw [← hself]
    exact hsub.filter _
  obtain ⟨u', hu', v', hv', hocc, hocc', hdis⟩ :=
    List.pairwise_iff_forall_sublist.1 hpairs hboth (hpos hp huin hu) (hpos hq hvin hv)
  have hulen := ((occurs_iff _ _).1 hocc).length_eq.trans (Span.length_text (hl.inside u' hu'))
  have hvlen := ((occurs_iff _ _).1 hocc').length_eq.trans (Span.length_text (hl.inside v' hv'))
  have huin' := hl.inside u' hu'
  have hvin' := hl.inside v' hv'
  unfold Span.Disjoint Span.stop at *
  omega

/-- **When literal counting is non-overlapping.**  On every message the detector's sequence hits are at
most as many as pairwise disjoint occurrences of entries can be selected, and no two of them meet,
exactly when no two entries of the list can overlap. -/
theorem literal_hits_disjoint_iff (patterns : List Text) :
    (∀ (d : MorphologicalReadingDetector) (content : Text),
        d.policy.literalSequencePatterns = patterns →
        (∃ l, Packing (OccursSome patterns) content l ∧ (d.detect content).sequenceHits ≤ l.length) ∧
          (literalHits content patterns).Pairwise Span.Disjoint) ↔
      patterns.Pairwise fun p q => canOverlap p q = false := by
  constructor
  · intro h
    refine List.pairwise_iff_forall_sublist.2 fun {p q} hsub => ?_
    by_contra hover
    obtain ⟨content, hfew⟩ := exists_overcount hsub (by simpa using hover)
    obtain ⟨⟨l, hl, hle⟩, -⟩ := h ⟨id, ⟨[], patterns, []⟩, fun _ => .failed⟩ content rfl
    rw [detect_sequenceHits] at hle
    exact absurd (hfew l hl) (Nat.not_lt.2 hle)
  · intro h d content hd
    have hpack := packing_literalHits h content
    refine ⟨⟨_, hpack, ?_⟩, hpack.disjoint⟩
    rw [detect_sequenceHits, hd, length_literalHits]

/-- The canonical configuration with a pattern in lower and in upper case. -/
def bothCasesConfig : StartupConfig ℚ :=
  { canonicalStartupConfig ℚ with
    detector := { canonicalDetectorConfig with
      literalSequencePatterns := ["oo".toList, "OO".toList] } }

/-- A configuration that is accepted, and two letters that are counted twice. -/
theorem literal_hits_overlap :
    validateConfig bothCasesConfig = .ok () ∧
      ((⟨id, bothCasesConfig.detector.asPolicy, fun _ => .tokens []⟩ :
        MorphologicalReadingDetector).detect "oo".toList).sequenceHits = 2 ∧
      ∀ l, Packing (OccursSome bothCasesConfig.detector.literalSequencePatterns) "oo".toList l →
        l.length ≤ 1 := by
  refine ⟨by decide, by decide, fun l hl => ?_⟩
  -- both entries occur where the first one does
  have hone : Packing (Occurs "oo".toList) "oo".toList l := by
    refine hl.sublist (List.Sublist.refl l) fun v _ hv => ?_
    obtain ⟨p, hp, -, hocc⟩ := hv
    have hp' : p = "oo".toList ∨ p = "OO".toList := by simpa [bothCasesConfig] using hp
    rcases hp' with rfl | rfl
    · exact hocc
    · exact hocc
  have hcount : countNonOverlapping "oo".toList "oo".toList = 1 := by decide
  rw [← hcount]
  exact length_le_countNonOverlapping (by decide) hone

example : canonicalDetectorConfig.literalSequencePatterns.Pairwise
    fun p q => canOverlap p q = false := by decide

end OoBot
