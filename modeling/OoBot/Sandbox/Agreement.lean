import OoBot.Config
import OoBot.Sandbox.Host
import OoBot.Security.Decisions

/-!
# The three counters

The guest's byte scan, `count_oo_sequences` and the configured literal patterns of the detector
count doubled letters independently of each other.

* On the three patterns of the counter they agree (`oo_counters_agree`).
* For other configured patterns the detector counts something else: the total the guest works with
  is the detector's exactly for the policies whose patterns are those three (`counts_agree_iff`).
-/

namespace OoBot

open Guest (nat32 flag frame Holds)
open Wasm (Costs exec execs link Instr)

/-- The loop of `analyze` in its block. -/
def scanLoop : Instr := .block [.loop Guest.loopBody]

/-- The locals of `analyze` at the start of a call on `n` bytes at the address `p`. -/
abbrev callFrame (p n : ℕ) (k s : BitVec 32) : Wasm.Frame := frame (nat32 p) (nat32 n) k s 0 0 0 0

/-- **The three counters agree.**  Searching for the three patterns counts what the pass over the
characters counts; and on the bytes of a text of at most 32768 bytes the guest's loop terminates with
that count, also in a memory that ends with the message, where every load beyond it would trap. -/
theorem oo_counters_agree (s : Text) :
    countLiteralPatterns s ooPatterns = countOoSequences s ∧
    ∀ (mem : Wasm.Memory) (p : ℕ) (k special : BitVec 32), utf8Len s ≤ 32768 →
      p + utf8Len s < 2 ^ 32 → Holds mem p (utf8 s) →
      ∀ m ∈ [mem, mem.upTo (p + utf8Len s)], ∃ fuel fr, ∃ c : BitVec 32,
        Costs (exec (link m Guest.helpers) m scanLoop (callFrame p (utf8Len s) k special)) fuel
          (.next fr) ∧
        fr.locals[Guest.count]? = some (.i32 c) ∧ c.toNat = countOoSequences s := by
  refine ⟨countLiteralPatterns_ooPatterns s, ?_⟩
  intro mem p k special hlen hp hm m hmem
  have hholds : Holds m p (utf8 s) := by
    rcases List.mem_pair.1 hmem with rfl | rfl
    · exact hm
    · intro j b hj
      have hlt := (List.getElem?_eq_some_iff.1 hj).1
      rw [Wasm.Memory.load8_upTo (by rw [utf8_length] at hlt; omega)]
      exact hm j b hj
  obtain ⟨i', x', y', h⟩ := Guest.costs_scan (k := k) (s := special) hholds
    (by rw [utf8_length]; omega) hp
  refine ⟨_, _, _, h, rfl, ?_⟩
  have hle := two_mul_countOoSequences_le s
  have hchars := length_le_utf8Len s
  rw [Guest.byteSteps_utf8, Guest.scanHits_textSteps, Guest.nat32_toNat (by omega)]

/-- A message with each kind of pair. -/
def mixedText : Text := "おおooオオ".toList

theorem oo_counters_agree_mixed :
    countLiteralPatterns mixedText ooPatterns = 3 ∧
    ∀ m ∈ [guestMemory (utf8 mixedText), (guestMemory (utf8 mixedText)).upTo 14],
      ∃ fuel fr, ∃ c : BitVec 32,
        Costs (exec (link m Guest.helpers) m scanLoop (callFrame 0 14 0 0)) fuel (.next fr) ∧
        fr.locals[Guest.count]? = some (.i32 c) ∧ c.toNat = 3 := by
  have hlen : utf8Len mixedText = 14 := by decide
  have hcount : countOoSequences mixedText = 3 := by decide
  have hagree := oo_counters_agree mixedText
  rw [hcount] at hagree
  refine ⟨hagree.1, ?_⟩
  have hscan := hagree.2 (guestMemory (utf8 mixedText)) 0 0 0 (by rw [hlen]; decide)
    (by rw [hlen]; decide) (guestMemory_holds (by rw [utf8_length, hlen]; decide))
  rwa [hlen] at hscan

/-! ### Policies -/

/-- The pattern that is searched for: an ASCII pattern in lowercase. -/
def normalizePattern (pattern : Text) : Text :=
  if isAscii pattern then toAsciiLowercase pattern else pattern

/-- What is searched for in place of the configured patterns. -/
def normalizedPatterns (patterns : List Text) : List Text :=
  (patterns.filter fun pattern => !pattern.isEmpty).map normalizePattern

/-- Counting a normalised pattern. -/
def countIn (pattern content : Text) : ℕ :=
  Scan.countMatches pattern (if isAscii pattern then toAsciiLowercase content else content)

theorem countNonOverlapping_eq {pattern : Text} (h : pattern ≠ []) (content : Text) :
    countNonOverlapping content pattern = countIn (normalizePattern pattern) content := by
  unfold countNonOverlapping countIn normalizePattern
  rw [if_neg h]
  by_cases ha : isAscii pattern
  · simp only [ha, if_true, isAscii_toAsciiLowercase]
  · simp only [ha, if_false, Bool.false_eq_true]

theorem countLiteralPatterns_eq (content : Text) (patterns : List Text) :
    countLiteralPatterns content patterns =
      ((normalizedPatterns patterns).map fun q => countIn q content).sum := by
  unfold countLiteralPatterns normalizedPatterns
  rw [List.map_map]
  congr 1
  refine List.map_congr_left fun p hp => ?_
  have hne : p ≠ [] := by simpa using (List.mem_filter.1 hp).2
  exact countNonOverlapping_eq hne content

theorem normalizePattern_ne_nil {p : Text} (h : p ≠ []) : normalizePattern p ≠ [] := by
  unfold normalizePattern toAsciiLowercase
  split_ifs
  · simpa using h
  · exact h

theorem normalizePattern_idem (p : Text) :
    normalizePattern (normalizePattern p) = normalizePattern p := by
  unfold normalizePattern
  by_cases h : isAscii p <;> simp [h, isAscii_toAsciiLowercase]

theorem normalizedPatterns_ooPatterns : normalizedPatterns ooPatterns = ooPatterns := by
  decide

theorem utf8Len_normalizePattern (p : Text) : utf8Len (normalizePattern p) = utf8Len p := by
  unfold normalizePattern
  split_ifs with h
  · rw [utf8Len_of_isAscii h, utf8Len_of_isAscii (by rw [isAscii_toAsciiLowercase, h]),
      toAsciiLowercase, List.length_map]
  · rfl

/-- A normalised pattern is found once in itself. -/
theorem countIn_self {q : Text} (hq : normalizePattern q = q) (hne : q ≠ []) : countIn q q = 1 := by
  have hay : (if isAscii q then toAsciiLowercase q else q) = q := hq
  rw [countIn, hay, Scan.countMatches_self hne]

section Exactness

variable {N : List Text} (hN : ∀ q ∈ N, q ≠ [] ∧ normalizePattern q = q)
  (hagree : ∀ content, utf8Len content ≤ 32768 →
    (N.map fun q => countIn q content).sum = countOoSequences content)

theorem infix_pair {x : Char} {n : Text} (h : n <:+: [x, x]) (hne : n ≠ []) :
    n = [x] ∨ n = [x, x] := by
  rcases n with _ | ⟨a, _ | ⟨b, n⟩⟩
  · exact absurd rfl hne
  · have ha : a ∈ [x, x] := h.subset List.mem_cons_self
    have hx : a = x := by simpa using ha
    exact Or.inl (by rw [hx])
  · refine Or.inr (h.eq_of_length ?_)
    have := h.length_le
    simp only [List.length_cons, List.length_nil] at this ⊢
    omega

include hN hagree

/-- A doubled letter that the counter counts is one of the patterns. -/
theorem pair_mem_of_agree {x : Char} (hlow : toAsciiLowercase [x, x] = [x, x])
    (hlen : utf8Len [x, x] ≤ 32768) (hone : countOoSequences [x, x] = 1) : [x, x] ∈ N := by
  have hsum := (hagree [x, x] hlen).trans hone
  obtain ⟨n, hn, hpos⟩ : ∃ n ∈ N, countIn n [x, x] ≠ 0 := by
    by_contra hnone
    have hzero : (N.map fun q => countIn q [x, x]).sum = 0 := by
      refine List.sum_eq_zero fun c hc => ?_
      obtain ⟨q, hq, rfl⟩ := List.mem_map.1 hc
      by_contra hne
      exact hnone ⟨q, hq, hne⟩
    omega
  have heq : countIn n [x, x] = Scan.countMatches n [x, x] := by
    unfold countIn
    rw [hlow, ite_self]
  have hle : countIn n [x, x] ≤ 1 := by
    rw [← hsum]
    exact List.le_sum_of_mem (List.mem_map.2 ⟨n, hn, rfl⟩)
  have hcount : Scan.countMatches n [x, x] = 1 := by
    rw [heq] at hle hpos
    omega
  have hne := (hN n hn).1
  have hsome : 0 < Scan.countMatches n [x, x] := by omega
  rcases infix_pair ((Scan.countMatches_pos_iff hne _).1 hsome) hne with rfl | rfl
  · have htwo : Scan.countMatches [x] [x, x] = 2 := by
      rw [Scan.countMatches_of_match hne (by simp), List.length_singleton, List.drop_one,
        List.tail_cons, Scan.countMatches_self hne]
    omega
  · exact hn

theorem mem_of_agree {t : Text} (ht : t ∈ ooPatterns) : t ∈ N := by
  have htt : t = ['お', 'お'] ∨ t = ['オ', 'オ'] ∨ t = ['o', 'o'] := by
    simpa [ooPatterns] using ht
  rcases htt with rfl | rfl | rfl
  · exact pair_mem_of_agree hN hagree (by decide) (by decide) (by decide)
  · exact pair_mem_of_agree hN hagree (by decide) (by decide) (by decide)
  · exact pair_mem_of_agree hN hagree (by decide) (by decide) (by decide)

omit hN hagree in
/-- Patterns listed besides others add their own counts. -/
theorem sum_le_of_subperm {M : List Text} (h : M.Subperm N) (content : Text) :
    (M.map fun q => countIn q content).sum ≤ (N.map fun q => countIn q content).sum := by
  obtain ⟨l, hl, hsub⟩ := h
  rw [← (hl.map _).sum_eq]
  exact (hsub.map _).sum_le_sum fun c _ => Nat.zero_le c

/-- No other pattern is listed: it would be counted in itself besides the pairs. -/
theorem mem_ooPatterns_of_agree {q : Text} (hq : q ∈ N) (hlen : utf8Len q ≤ 32768) :
    q ∈ ooPatterns := by
  by_contra hnot
  have hnodup : (q :: ooPatterns).Nodup := List.nodup_cons.2 ⟨hnot, by decide⟩
  have hsub : q :: ooPatterns ⊆ N :=
    List.cons_subset.2 ⟨hq, fun t ht => mem_of_agree hN hagree ht⟩
  have hle := sum_le_of_subperm (hnodup.subperm hsub) q
  have hself := countIn_self (hN q hq).2 (hN q hq).1
  have hpairs := countLiteralPatterns_ooPatterns q
  rw [countLiteralPatterns_eq, normalizedPatterns_ooPatterns] at hpairs
  rw [hagree q hlen, List.map_cons, List.sum_cons, hself, hpairs] at hle
  omega

/-- No pattern is listed twice: it would be counted in itself twice. -/
theorem nodup_of_agree (hlen : ∀ q ∈ N, utf8Len q ≤ 32768) : N.Nodup := by
  rw [List.nodup_iff_sublist]
  intro q htwice
  have hq : q ∈ N := htwice.subset List.mem_cons_self
  have hle := sum_le_of_subperm htwice.subperm q
  have hself := countIn_self (hN q hq).2 (hN q hq).1
  have hone : countOoSequences q = 1 := by
    have hmem := mem_ooPatterns_of_agree hN hagree hq (hlen q hq)
    have all : ∀ t ∈ ooPatterns, countOoSequences t = 1 := by decide
    exact all q hmem
  rw [hagree q (hlen q hq), hone] at hle
  simp [hself] at hle

end Exactness

/-- The patterns that count what the guest counts: the three patterns, each once, in any order and
any case. -/
theorem countLiteralPatterns_eq_iff {patterns : List Text}
    (hlen : ∀ p ∈ patterns, utf8Len p ≤ 32768) :
    (∀ content, utf8Len content ≤ 32768 →
        countLiteralPatterns content patterns = countOoSequences content) ↔
      (normalizedPatterns patterns).Perm ooPatterns := by
  have hN : ∀ q ∈ normalizedPatterns patterns, q ≠ [] ∧ normalizePattern q = q := by
    intro q hq
    obtain ⟨p, hp, rfl⟩ := List.mem_map.1 hq
    have hne : p ≠ [] := by simpa using (List.mem_filter.1 hp).2
    exact ⟨normalizePattern_ne_nil hne, normalizePattern_idem p⟩
  have hNlen : ∀ q ∈ normalizedPatterns patterns, utf8Len q ≤ 32768 := by
    intro q hq
    obtain ⟨p, hp, rfl⟩ := List.mem_map.1 hq
    rw [utf8Len_normalizePattern]
    exact hlen p (List.mem_filter.1 hp).1
  constructor
  · intro h
    have hagree : ∀ content, utf8Len content ≤ 32768 →
        ((normalizedPatterns patterns).map fun q => countIn q content).sum =
          countOoSequences content := by
      intro content hc
      rw [← countLiteralPatterns_eq, h content hc]
    -- neither list repeats a pattern, so it is enough that they have the same members
    rw [List.perm_ext_iff_of_nodup (nodup_of_agree hN hagree hNlen) (by decide)]
    exact fun q => ⟨fun hq => mem_ooPatterns_of_agree hN hagree hq (hNlen q hq),
      fun hq => mem_of_agree hN hagree hq⟩
  · intro h content _
    rw [← countLiteralPatterns_ooPatterns, countLiteralPatterns_eq, countLiteralPatterns_eq,
      normalizedPatterns_ooPatterns]
    exact (h.map _).sum_eq

/-! ### The guest's total -/

/-- The total that the guest bases its proposal on: what `$count` holds when the scan is over and
`$kanji_count` is added. -/
def GuestTotal (req : AnalyzerRequest) (total : BitVec 32) : Prop :=
  ∃ fuel fr, Costs (execs (link (guestMemory (utf8 req.content)) Guest.helpers)
      (guestMemory (utf8 req.content)) Guest.totalCode
      (callFrame 0 (utf8Len req.content) (nat32 (min req.kanjiCount i32Max))
        (flag req.specialPhraseHit))) fuel (.next fr) ∧
    fr.locals[Guest.count]? = some (.i32 total)

theorem guestTotal_iff {req : AnalyzerRequest} (hlen : utf8Len req.content ≤ 32768)
    (total : BitVec 32) :
    GuestTotal req total ↔
      total = nat32 (countOoSequences req.content) + nat32 (min req.kanjiCount i32Max) := by
  have hle : (utf8 req.content).length ≤ guestMemoryBytes := hlen.trans (by decide)
  obtain ⟨q, i', x', y', h⟩ := Guest.costs_totalCode
    (k := nat32 (min req.kanjiCount i32Max)) (s := flag req.specialPhraseHit)
    (guestMemory_holds hle) hlen (by rw [utf8_length]; omega)
  rw [Guest.byteSteps_utf8, Guest.scanHits_textSteps] at h
  constructor
  · rintro ⟨fuel, fr, hfr, htotal⟩
    have hout := h.unique hfr
    injection hout with hout
    rw [← hout] at htotal
    injection htotal with htotal
    injection htotal with htotal
    exact htotal.symm
  · rintro rfl
    exact ⟨_, _, h, rfl⟩

/-- As a signed number the guest's total is a given sum only where nothing overflows. -/
theorem guestTotal_toInt {c k s : ℕ} (hc : c ≤ 32768) :
    (nat32 c + nat32 (min k i32Max)).toInt = ((s + k : ℕ) : ℤ) ↔ s = c ∧ c + k < 2 ^ 31 := by
  have hmin : min k i32Max ≤ 2147483647 := Nat.min_le_right _ _
  have hi : i32Max = 2147483647 := rfl
  have hnat : (nat32 (c + min k i32Max)).toNat = c + min k i32Max := Guest.nat32_toNat (by omega)
  rw [Guest.nat32_add, BitVec.toInt_eq_toNat_cond, hnat]
  split_ifs with h <;> omega

/-! ### Agreement for a policy -/

/-- The guest's total is the report's; hence a counted message that is admitted to the analyzer never
ends as the analyzer's `Noop`. -/
structure CountsAgree (F : Type) [F64 F] (a : WasmtimeSandboxAnalyzer) (content : Text)
    (report : DetectionReport) : Prop where
  total : ∃ total, GuestTotal (TrustedCore.request content report) total ∧
    total.toInt = (report.totalCount : ℤ)
  answered : ∀ (nfkc : Text → Text) (core : TrustedCore F Unit) (ctx : MessageContext)
    (now : Instant) (order : IterOrder UInt64 Instant), core.analyzer = a.toAnalyzer →
    core.detector content = report → core.Admitted ctx now →
    classifySuspiciousInput nfkc content core.suspiciousCfg ≠ .hard →
    1 ≤ report.totalCount → report.specialPhraseHit = false →
    (core.decideMessage nfkc ctx content now order).1.proposal ≠ .noop

/-- The guest answers `Noop` to a message with nothing to count only. -/
theorem guestProposal_ne_noop {total : ℕ} (h : 1 ≤ total) (special : Bool) :
    Guest.guestProposal total special ≠ .noop := by
  unfold Guest.guestProposal
  split_ifs with h₁ h₂ h₃
  · simp
  · omega
  · simp
  · simp

section Policy

variable {F : Type} [F64 F] {a : WasmtimeSandboxAnalyzer} {d : MorphologicalReadingDetector}
  {content : Text}

/-- On one message the totals are the same where the pass counts what the patterns count and the sum
is an `i32`. -/
theorem countsAgree_iff (ha : a.Ready) (hlen : utf8Len content ≤ 32768) :
    CountsAgree F a content (d.detect content) ↔
      countLiteralPatterns content d.policy.literalSequencePatterns = countOoSequences content ∧
        countOoSequences content + (d.detect content).kanjiHits < 2 ^ 31 := by
  have hreq : utf8Len (TrustedCore.request content (d.detect content)).content ≤ 32768 := hlen
  have hcount : countOoSequences content ≤ 32768 := by
    have := two_mul_countOoSequences_le content
    have := length_le_utf8Len content
    omega
  have htotal : (∃ total, GuestTotal (TrustedCore.request content (d.detect content)) total ∧
      total.toInt = ((d.detect content).totalCount : ℤ)) ↔
      countLiteralPatterns content d.policy.literalSequencePatterns = countOoSequences content ∧
        countOoSequences content + (d.detect content).kanjiHits < 2 ^ 31 := by
    simp only [guestTotal_iff hreq, exists_eq_left]
    rw [detect_totalCount, detect_sequenceHits]
    exact guestTotal_toInt hcount
  constructor
  · exact fun h => htotal.1 h.total
  · intro h
    refine ⟨htotal.2 h, ?_⟩
    intro nfkc core ctx now order hanalyzer hdetector hadm hsusp hone hspecial
    have hsum : countOoSequences content + (d.detect content).kanjiHits =
        (d.detect content).totalCount := by
      rw [detect_totalCount, detect_sequenceHits, h.1]
    have hpropose := ha.propose_eq hreq
    have hacted : actedTotal (TrustedCore.request content (d.detect content)) =
        countOoSequences content + (d.detect content).kanjiHits := actedTotal_of_lt h.2
    rw [hadm.proposal_eq, TrustedCore.proposalFor, if_neg hsusp, hanalyzer, hdetector]
    simp only [WasmtimeSandboxAnalyzer.toAnalyzer]
    rw [hpropose, hacted]
    -- either the fuel is enough for the guest's proposal, or the message is deferred
    split_ifs with hfuel
    · refine guestProposal_ne_noop ?_ _
      omega
    · simp

/-- **Which policies the shipped guest counts for.**  For an accepted configuration the guest works
with the detector's total, on every message of at most 32768 bytes and every tokenizer output whose
total is an `i32`, exactly when the configured patterns are the three patterns of the guest. -/
theorem counts_agree_iff {texts : WasmtimeTexts} {sandbox : SandboxConfig} {cfg : StartupConfig F}
    (ha : WasmtimeSandboxAnalyzer.new texts sandbox = .ok a) (hcfg : validateConfig cfg = .ok ()) :
    (∀ d : MorphologicalReadingDetector, d.policy = cfg.detector.asPolicy →
      ∀ content, utf8Len content ≤ 32768 →
        (CountsAgree F a content (d.detect content) ↔
          countOoSequences content + (d.detect content).kanjiHits < 2 ^ 31)) ↔
      (normalizedPatterns cfg.detector.literalSequencePatterns).Perm ooPatterns := by
  obtain ⟨hready, -⟩ := WasmtimeSandboxAnalyzer.ready_of_new ha
  have hshort : ∀ p ∈ cfg.detector.literalSequencePatterns, utf8Len p ≤ 32768 :=
    fun p hp => (pattern_le_of_validate hcfg hp).trans (by decide)
  rw [← countLiteralPatterns_eq_iff hshort]
  constructor
  · intro h content hlen
    -- without tokens there is nothing to add to the counts of the patterns
    let d : MorphologicalReadingDetector := ⟨id, cfg.detector.asPolicy, fun _ => .failed⟩
    have hzero : (d.detect content).kanjiHits = 0 := rfl
    have hsmall : countOoSequences content + (d.detect content).kanjiHits < 2 ^ 31 := by
      have := two_mul_countOoSequences_le content
      have := length_le_utf8Len content
      omega
    exact ((countsAgree_iff hready hlen).1 ((h d rfl content hlen).2 hsmall)).1
  · intro h d hd content hlen
    rw [countsAgree_iff hready hlen, hd]
    exact and_iff_right (h content hlen)

/-- With the canonical patterns the totals agree. -/
theorem counts_agree_canonical :
    CountsAgree ℚ (shippedAnalyzer .unread) "おおきなoOオオ".toList
      (canonicalDetector.detect "おおきなoOオオ".toList) :=
  ((counts_agree_iff (new_shippedAnalyzer .unread) (validateConfig_canonical ℚ)).2 (by decide)
    canonicalDetector rfl "おおきなoOオオ".toList (by decide)).2 (by decide)

/-- The canonical configuration with the literal patterns `草` in place of its own. -/
def kusaConfig : StartupConfig ℚ :=
  { canonicalStartupConfig ℚ with
    detector := { canonicalDetectorConfig with literalSequencePatterns := ["草".toList] } }

/-- The detector of that configuration, over a tokenizer without tokens. -/
def kusaDetector : MorphologicalReadingDetector :=
  ⟨id, kusaConfig.detector.asPolicy, fun _ => .tokens []⟩

/-- A configuration that is accepted, and a message that the detector counts and the guest does
not. -/
theorem counts_disagree :
    validateConfig kusaConfig = .ok () ∧ (kusaDetector.detect "草".toList).totalCount = 1 ∧
      (kusaDetector.detect "草".toList).specialPhraseHit = false ∧
      (shippedAnalyzer .unread).propose
        (TrustedCore.request "草".toList (kusaDetector.detect "草".toList)) = .ok .noop ∧
      ¬ CountsAgree ℚ (shippedAnalyzer .unread) "草".toList (kusaDetector.detect "草".toList) := by
  obtain ⟨hready, -⟩ := WasmtimeSandboxAnalyzer.ready_of_new (new_shippedAnalyzer .unread)
  refine ⟨by decide, by decide, by decide, ?_, ?_⟩
  · rw [hready.propose_eq (by decide), if_pos (by decide)]
    decide
  · rw [countsAgree_iff hready (by decide)]
    decide

end Policy

end OoBot
