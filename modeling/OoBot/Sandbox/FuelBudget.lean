import OoBot.Sandbox.Host
import OoBot.Security.Decisions

/-!
# The fuel of ordinary messages

The default limit is 50000 units of fuel for a call of the guest.  `analyzeFuel` is what a call needs,
in closed form: a price for every doubled letter, and one for every other byte, which is compared with
both doubled kana when at least five bytes follow it.

* A message without suspicion is answered exactly when that is at most 50000 (`within_budget_iff`).
* Messages of at most 285 bytes always are; of those without a doubled letter, none of 290 bytes or
  more is (`analyzeFuel_le`, `lt_analyzeFuel`).
-/

namespace OoBot

open Guest (scanFuel textSteps missSteps finishFuel)

/-! ### The price of a message -/

/-- The doubled letters `oo`, in any case. -/
def asciiPairs (s : Text) : ℕ := Scan.pairScan (fun c d => isAsciiO c && isAsciiO d) s

/-- The doubled letters `おお`. -/
def hiraganaPairs (s : Text) : ℕ := Scan.pairScan (fun c d => c == 'お' && d == 'お') s

/-- The doubled letters `オオ`. -/
def katakanaPairs (s : Text) : ℕ := Scan.pairScan (fun c d => c == 'オ' && d == 'オ') s

/-- For each of `w` bytes with `after` bytes after them, how many bytes follow it. -/
def followers : ℕ → ℕ → List ℕ
  | 0, _ => []
  | w + 1, after => (w + after) :: followers w after

/-- For each byte outside the doubled letters, how many bytes follow it. -/
def unpaired : Text → List ℕ
  | c :: d :: s =>
      if ooHit c d then unpaired s
      else followers c.utf8Size (utf8Len (d :: s)) ++ unpaired (d :: s)
  | [c] => followers c.utf8Size 0
  | [] => []

/-- The bytes among them that are compared with both doubled kana. -/
def farBytes (l : List ℕ) : ℕ := l.countP fun n => 5 ≤ n

/-- The bytes among them that are compared with neither. -/
def nearBytes (l : List ℕ) : ℕ := l.countP fun n => 1 ≤ n && n < 5

/-- The fuel of a call on a message. -/
def analyzeFuel (req : AnalyzerRequest) : ℕ :=
  11 + 55 * asciiPairs req.content + 117 * hiraganaPairs req.content +
    179 * katakanaPairs req.content + 175 * farBytes (unpaired req.content) +
    63 * nearBytes (unpaired req.content) + finishFuel (actedTotal req) req.specialPhraseHit

@[simp] theorem farBytes_append (l m : List ℕ) : farBytes (l ++ m) = farBytes l + farBytes m :=
  List.countP_append

@[simp] theorem nearBytes_append (l m : List ℕ) : nearBytes (l ++ m) = nearBytes l + nearBytes m :=
  List.countP_append

theorem scanFuel_missSteps (w after : ℕ) :
    scanFuel (missSteps w after) =
      175 * farBytes (followers w after) + 63 * nearBytes (followers w after) := by
  induction w with
  | zero => rfl
  | succ w ih =>
    have hfar : farBytes (followers (w + 1) after) =
        farBytes (followers w after) + if 5 ≤ w + after then 1 else 0 := by
      simp [farBytes, followers, List.countP_cons]
    have hnear : nearBytes (followers (w + 1) after) =
        nearBytes (followers w after) + if 1 ≤ w + after ∧ w + after < 5 then 1 else 0 := by
      simp [nearBytes, followers, List.countP_cons]
    rw [missSteps, Guest.scanFuel_append, ih, hfar, hnear]
    split_ifs <;> simp [Guest.ScanStep.fuel] <;> omega

/-- The price of the doubled letters. -/
def pairFuel (s : Text) : ℕ := 55 * asciiPairs s + 117 * hiraganaPairs s + 179 * katakanaPairs s

/-- Two letters that start no pair of a kind are passed over by its count. -/
theorem pairScan_skip {hit : Char → Char → Bool} {c d : Char} (s : Text)
    (hc : ∀ e, hit c e = false) (hd : ∀ e, hit d e = false) :
    Scan.pairScan hit (c :: d :: s) = Scan.pairScan hit s := by
  rw [Scan.pairScan_cons_of_forall hc, Scan.pairScan_cons_of_forall hd]

theorem pairFuel_ascii {c d : Char} (s : Text) (hc : isAsciiO c = true) (hd : isAsciiO d = true) :
    pairFuel (c :: d :: s) = 55 + pairFuel s := by
  have kana : ∀ x : Char, isAsciiO x = true → (x == 'お') = false ∧ (x == 'オ') = false := by
    intro x hx
    have hx' : x = 'o' ∨ x = 'O' := by simpa [isAsciiO] using hx
    rcases hx' with rfl | rfl <;> decide
  have ha : asciiPairs (c :: d :: s) = asciiPairs s + 1 :=
    Scan.pairScan_of_hit (by rw [hc, hd]; rfl)
  have hh : hiraganaPairs (c :: d :: s) = hiraganaPairs s :=
    pairScan_skip s (fun e => by rw [(kana c hc).1, Bool.false_and])
      (fun e => by rw [(kana d hd).1, Bool.false_and])
  have hk : katakanaPairs (c :: d :: s) = katakanaPairs s :=
    pairScan_skip s (fun e => by rw [(kana c hc).2, Bool.false_and])
      (fun e => by rw [(kana d hd).2, Bool.false_and])
  rw [pairFuel, ha, hh, hk, pairFuel]
  omega

theorem pairFuel_hiragana (s : Text) : pairFuel ('お' :: 'お' :: s) = 117 + pairFuel s := by
  have ha : asciiPairs ('お' :: 'お' :: s) = asciiPairs s :=
    pairScan_skip s (fun e => rfl) (fun e => rfl)
  have hh : hiraganaPairs ('お' :: 'お' :: s) = hiraganaPairs s + 1 := Scan.pairScan_of_hit rfl
  have hk : katakanaPairs ('お' :: 'お' :: s) = katakanaPairs s :=
    pairScan_skip s (fun e => rfl) (fun e => rfl)
  rw [pairFuel, ha, hh, hk, pairFuel]
  omega

theorem pairFuel_katakana (s : Text) : pairFuel ('オ' :: 'オ' :: s) = 179 + pairFuel s := by
  have ha : asciiPairs ('オ' :: 'オ' :: s) = asciiPairs s :=
    pairScan_skip s (fun e => rfl) (fun e => rfl)
  have hh : hiraganaPairs ('オ' :: 'オ' :: s) = hiraganaPairs s :=
    pairScan_skip s (fun e => rfl) (fun e => rfl)
  have hk : katakanaPairs ('オ' :: 'オ' :: s) = katakanaPairs s + 1 := Scan.pairScan_of_hit rfl
  rw [pairFuel, ha, hh, hk, pairFuel]
  omega

theorem pairFuel_miss {c d : Char} (s : Text) (h : ooHit c d = false) :
    pairFuel (c :: d :: s) = pairFuel (d :: s) := by
  obtain ⟨⟨hh, hk⟩, ha⟩ : (((c == 'お' && d == 'お') = false) ∧ ((c == 'オ' && d == 'オ') = false)) ∧
      ((isAsciiO c && isAsciiO d) = false) := by
    simpa only [ooHit, Bool.or_eq_false_iff] using h
  have ha' : asciiPairs (c :: d :: s) = asciiPairs (d :: s) := Scan.pairScan_of_not_hit ha
  have hh' : hiraganaPairs (c :: d :: s) = hiraganaPairs (d :: s) := Scan.pairScan_of_not_hit hh
  have hk' : katakanaPairs (c :: d :: s) = katakanaPairs (d :: s) := Scan.pairScan_of_not_hit hk
  rw [pairFuel, ha', hh', hk', pairFuel]

/-- The scan, in closed form. -/
theorem scanFuel_textSteps (s : Text) :
    scanFuel (textSteps s) =
      pairFuel s + 175 * farBytes (unpaired s) + 63 * nearBytes (unpaired s) := by
  induction s using OoBot.Guest.textSteps.induct with
  | case1 c d s h ih =>
    obtain ⟨hc, hd⟩ := Bool.and_eq_true_iff.1 h
    have hu : unpaired (c :: d :: s) = unpaired s := if_pos (by simp [ooHit, hc, hd])
    rw [hu, pairFuel_ascii s hc hd]
    simp only [textSteps, h, if_true, Guest.scanFuel_cons, ih, Guest.ScanStep.fuel]
    omega
  | case2 c d s h₁ h₂ ih =>
    obtain ⟨rfl, rfl⟩ : c = 'お' ∧ d = 'お' := by simpa using h₂
    have hu : unpaired ('お' :: 'お' :: s) = unpaired s := rfl
    have ht : textSteps ('お' :: 'お' :: s) = .hiragana :: textSteps s := rfl
    rw [hu, ht, pairFuel_hiragana, Guest.scanFuel_cons, ih, Guest.ScanStep.fuel]
    omega
  | case3 c d s h₁ h₂ h₃ ih =>
    obtain ⟨rfl, rfl⟩ : c = 'オ' ∧ d = 'オ' := by simpa using h₃
    have hu : unpaired ('オ' :: 'オ' :: s) = unpaired s := rfl
    have ht : textSteps ('オ' :: 'オ' :: s) = .katakana :: textSteps s := rfl
    rw [hu, ht, pairFuel_katakana, Guest.scanFuel_cons, ih, Guest.ScanStep.fuel]
    omega
  | case4 c d s h₁ h₂ h₃ ih =>
    have hno : ooHit c d = false := by simp only [ooHit, h₁, h₂, h₃, Bool.or_self]
    have hu : unpaired (c :: d :: s) =
        followers c.utf8Size (utf8Len (d :: s)) ++ unpaired (d :: s) := if_neg (by simp [hno])
    rw [hu, pairFuel_miss s hno, farBytes_append, nearBytes_append]
    simp only [textSteps, h₁, h₂, h₃, Bool.false_eq_true, if_false, Guest.scanFuel_append,
      scanFuel_missSteps, ih]
    omega
  | case5 c =>
    have hp : pairFuel [c] = 0 := rfl
    have ht : textSteps [c] = missSteps c.utf8Size 0 := rfl
    rw [ht, scanFuel_missSteps, hp, unpaired]
    omega
  | case6 => rfl

/-- The closed form is the fuel of the guest. -/
theorem guestFuel_eq (req : AnalyzerRequest) :
    Guest.guestFuel req.content (min req.kanjiCount i32Max) req.specialPhraseHit =
      analyzeFuel req := by
  rw [Guest.guestFuel, scanFuel_textSteps, pairFuel, analyzeFuel, actedTotal]
  omega

/-! ### Short messages, and messages without a doubled letter -/

theorem scanFuel_missSteps_le (w after : ℕ) : scanFuel (missSteps w after) ≤ 175 * w := by
  induction w with
  | zero => exact Nat.le_refl 0
  | succ w ih =>
    rw [missSteps, Guest.scanFuel_append]
    split_ifs <;> simp [Guest.ScanStep.fuel] <;> omega

/-- No byte costs more than a far one. -/
theorem scanFuel_textSteps_le (s : Text) : scanFuel (textSteps s) ≤ 175 * utf8Len s := by
  induction s using OoBot.Guest.textSteps.induct with
  | case1 c d s h ih =>
    have hc := c.utf8Size_pos
    have hd := d.utf8Size_pos
    simp only [textSteps, h, if_true, Guest.scanFuel_cons, Guest.ScanStep.fuel, utf8Len_cons]
    omega
  | case2 c d s h₁ h₂ ih =>
    have hc := c.utf8Size_pos
    have hd := d.utf8Size_pos
    simp only [textSteps, h₁, h₂, if_true, Bool.false_eq_true, if_false, Guest.scanFuel_cons,
      Guest.ScanStep.fuel, utf8Len_cons]
    omega
  | case3 c d s h₁ h₂ h₃ ih =>
    have hc := c.utf8Size_pos
    have hd := d.utf8Size_pos
    simp only [textSteps, h₁, h₂, h₃, if_true, Bool.false_eq_true, if_false, Guest.scanFuel_cons,
      Guest.ScanStep.fuel, utf8Len_cons]
    omega
  | case4 c d s h₁ h₂ h₃ ih =>
    have hmiss := scanFuel_missSteps_le c.utf8Size (utf8Len (d :: s))
    simp only [textSteps, h₁, h₂, h₃, Bool.false_eq_true, if_false, Guest.scanFuel_append]
    rw [utf8Len_cons c]
    omega
  | case5 c =>
    have hmiss := scanFuel_missSteps_le c.utf8Size 0
    rw [textSteps, utf8Len_cons, utf8Len_nil]
    omega
  | case6 => exact Nat.le_refl 0

theorem finishFuel_bounds (total : ℕ) (special : Bool) :
    9 ≤ finishFuel total special ∧ finishFuel total special ≤ 26 := by
  unfold finishFuel
  split_ifs <;> omega

/-- A message of at most 285 bytes never needs more than the default limit. -/
theorem analyzeFuel_le {req : AnalyzerRequest} (h : utf8Len req.content ≤ 285) :
    analyzeFuel req ≤ 50000 := by
  have hscan := scanFuel_textSteps_le req.content
  have hfinish := (finishFuel_bounds (actedTotal req) req.specialPhraseHit).2
  rw [scanFuel_textSteps, pairFuel] at hscan
  rw [analyzeFuel]
  omega

theorem followers_add (v w after : ℕ) :
    followers (v + w) after = followers v (w + after) ++ followers w after := by
  induction v with
  | zero => simp [followers]
  | succ v ih =>
    rw [Nat.add_right_comm, followers, followers, ih, List.cons_append, Nat.add_assoc]

/-- Without a doubled letter every byte of a message is outside of one. -/
theorem unpaired_of_no_pair {s : Text} (h : countOoSequences s = 0) :
    unpaired s = followers (utf8Len s) 0 := by
  induction s using unpaired.induct with
  | case1 c d s hit ih =>
    rw [countOoSequences, if_pos hit] at h
    omega
  | case2 c d s hit ih =>
    rw [countOoSequences, if_neg hit] at h
    rw [unpaired, if_neg hit, ih h, utf8Len_cons c, followers_add, Nat.add_zero]
  | case3 c => rw [unpaired, utf8Len_cons, utf8Len_nil, Nat.add_zero]
  | case4 => rfl

theorem farBytes_followers (w : ℕ) : farBytes (followers w 0) = w - 5 := by
  induction w with
  | zero => rfl
  | succ w ih =>
    have hfar : farBytes (followers (w + 1) 0) =
        farBytes (followers w 0) + if 5 ≤ w then 1 else 0 := by
      simp [farBytes, followers, List.countP_cons]
    rw [hfar, ih]
    split_ifs <;> omega

theorem nearBytes_followers (w : ℕ) : nearBytes (followers w 0) = min (w - 1) 4 := by
  induction w with
  | zero => rfl
  | succ w ih =>
    have hnear : nearBytes (followers (w + 1) 0) =
        nearBytes (followers w 0) + if 1 ≤ w ∧ w < 5 then 1 else 0 := by
      simp [nearBytes, followers, List.countP_cons]
    rw [hnear, ih]
    split_ifs <;> omega

/-- A message of 290 bytes or more without a doubled letter always needs more. -/
theorem lt_analyzeFuel {req : AnalyzerRequest} (hno : countOoSequences req.content = 0)
    (h : 290 ≤ utf8Len req.content) : 50000 < analyzeFuel req := by
  have hfinish := (finishFuel_bounds (actedTotal req) req.specialPhraseHit).1
  rw [analyzeFuel, unpaired_of_no_pair hno, farBytes_followers, nearBytes_followers]
  omega

/-! ### The default limit -/

/-- The call for a message ends within its fuel: it finishes, the sandbox answers, and no core in
which the message is admitted records a failure of the analyzer. -/
structure WithinBudget (F : Type) [F64 F] (nfkc : Text → Text) (a : WasmtimeSandboxAnalyzer)
    (content : Text) (report : DetectionReport) : Prop where
  finishes : ∃ result left, a.callAnalyze (TrustedCore.request content report) =
    some (.ok result, left)
  answers : ∃ proposal, a.propose (TrustedCore.request content report) = .ok proposal
  unrecorded : ∀ (core : TrustedCore F Unit) (ctx : MessageContext) (now : Instant)
    (order : IterOrder UInt64 Instant), core.analyzer = a.toAnalyzer →
    core.detector content = report → core.Admitted ctx now →
    (core.decideMessage nfkc ctx content now order).2.sandboxFailures =
      trimFront (fromMillis core.runtime.sandboxFailureWindowMs) now core.sandboxFailures

section Budget

variable {F : Type} [F64 F] {nfkc : Text → Text} {a : WasmtimeSandboxAnalyzer}
  {texts : WasmtimeTexts} {content : Text}

theorem utf8Len_le_of_classify_none
    (h : classifySuspiciousInput nfkc content .default = .none) : utf8Len content ≤ 32768 := by
  have hlt : content.length < 2000 := length_lt_of_classify_none h
  have := utf8Len_le content
  omega

/-- **Which ordinary messages the default limit is enough for.** -/
theorem within_budget_iff (ha : WasmtimeSandboxAnalyzer.new texts .default = .ok a)
    (hc : classifySuspiciousInput nfkc content .default = .none) (report : DetectionReport) :
    WithinBudget F nfkc a content report ↔
      analyzeFuel (TrustedCore.request content report) ≤ 50000 := by
  obtain ⟨hready, hcfg⟩ := WasmtimeSandboxAnalyzer.ready_of_new ha
  have hlen : utf8Len (TrustedCore.request content report).content ≤ 32768 :=
    utf8Len_le_of_classify_none hc
  have hlimit : a.cfg.fuelLimit = 50000 := by rw [hcfg]; rfl
  have hpropose := hready.propose_eq hlen
  rw [guestFuel_eq, hlimit] at hpropose
  constructor
  · intro h
    obtain ⟨proposal, hanswer⟩ := h.answers
    by_contra hover
    rw [hpropose, if_neg hover] at hanswer
    cases hanswer
  · intro hfuel
    rw [if_pos hfuel] at hpropose
    have call := costs_callAnalyze hlen
    rw [guestFuel_eq] at call
    refine ⟨⟨_, _, call.run (by rw [hlimit]; exact hfuel)⟩, ⟨_, hpropose⟩, ?_⟩
    intro core ctx now order hanalyzer hdetector hadm
    rw [hadm.failures_eq, TrustedCore.failuresAfter, hanalyzer, hdetector]
    simp only [WasmtimeSandboxAnalyzer.toAnalyzer, hpropose, ite_self]

omit [F64 F] in
/-- With enough fuel the proposal of the sandbox is the guest's. -/
theorem proposalFor_sandbox {core : TrustedCore F Unit} (ha : a.Ready)
    (hcore : core.analyzer = a.toAnalyzer) (hlen : utf8Len content ≤ 32768)
    (hhard : classifySuspiciousInput nfkc content core.suspiciousCfg ≠ .hard)
    (hfuel : analyzeFuel (TrustedCore.request content (core.detector content)) ≤ a.cfg.fuelLimit) :
    core.proposalFor nfkc content =
      Guest.guestProposal (actedTotal (TrustedCore.request content (core.detector content)))
        (core.detector content).specialPhraseHit := by
  have hreq : utf8Len (TrustedCore.request content (core.detector content)).content ≤ 32768 := hlen
  have hpropose := ha.propose_eq hreq
  rw [guestFuel_eq, if_pos hfuel] at hpropose
  rw [TrustedCore.proposalFor, if_neg hhard, hcore]
  simp only [WasmtimeSandboxAnalyzer.toAnalyzer, hpropose]
  rfl

/-- A report without a hit. -/
def quietReport : DetectionReport where
  backend := .morphologicalReading
  matchedBackend := "morphological_reading".toList
  matchedReadings := []
  sequenceHits := 0
  kanjiHits := 0
  totalCount := 0
  specialPhraseHit := false
  tokenCount := 0

/-- A short message is within the limit. -/
theorem within_budget_short :
    WithinBudget ℚ id (shippedAnalyzer .unread) "おおきい".toList quietReport :=
  (within_budget_iff (new_shippedAnalyzer .unread) (by decide +kernel) quietReport).2
    (analyzeFuel_le (by decide))

/-- A message of 290 letters. -/
def longMessage : Text := (List.replicate 145 ['a', 'b']).flatten

/-- An ordinary message on which the guest runs out of fuel, whatever text Wasmtime has for that. -/
theorem long_message_over_budget :
    classifySuspiciousInput id longMessage .default = .none ∧
      ∀ texts : WasmtimeTexts,
        (shippedAnalyzer texts).propose (TrustedCore.request longMessage quietReport) =
            .error (callError texts.outOfFuel) ∧
          ¬ WithinBudget ℚ id (shippedAnalyzer texts) longMessage quietReport := by
  have hclass : classifySuspiciousInput id longMessage .default = .none := by decide +kernel
  refine ⟨hclass, fun texts => ?_⟩
  obtain ⟨hready, -⟩ := WasmtimeSandboxAnalyzer.ready_of_new (new_shippedAnalyzer texts)
  have hover : ¬ analyzeFuel (TrustedCore.request longMessage quietReport) ≤
      (shippedAnalyzer texts).cfg.fuelLimit :=
    Nat.not_le.2 (lt_analyzeFuel (by decide +kernel) (by decide +kernel))
  have hlen : utf8Len (TrustedCore.request longMessage quietReport).content ≤ 32768 :=
    utf8Len_le_of_classify_none hclass
  have hpropose := hready.propose_eq hlen
  rw [guestFuel_eq, if_neg hover] at hpropose
  refine ⟨hpropose, ?_⟩
  intro h
  obtain ⟨proposal, hanswer⟩ := h.answers
  rw [hpropose] at hanswer
  cases hanswer

end Budget

end OoBot
