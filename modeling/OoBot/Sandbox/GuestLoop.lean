import Mathlib.Algebra.GroupWithZero.Nat
import OoBot.Sandbox.Guest
import OoBot.Domain.OoCounter

/-!
# The scan loop of the guest

Each fragment of the loop body has an outcome and a cost (`evals_…`), so one round of the loop is
one `ScanStep` of a scan through the bytes that are left (`byteSteps`), and the whole loop is the
whole scan (`loopCosts_scan`): it ends with `$count` raised by the number of hits, after exactly the
fuel of the steps taken, without a load beyond the message.
-/

namespace OoBot.Guest

open Wasm Instr

/-- The six bytes `E3 mid last E3 mid last`. -/
def kanaBytes (mid last : UInt8) : List UInt8 := [227, mid, last, 227, mid, last]

/-- `おお`. -/
def hiraganaBytes : List UInt8 := kanaBytes 129 138

/-- `オオ`. -/
def katakanaBytes : List UInt8 := kanaBytes 130 170

/-- ASCII `o` or `O`. -/
def isByteO (b : UInt8) : Bool := b == 111 || b == 79

/-- What one round of the loop finds; a miss is `near` when fewer than six bytes are left. -/
inductive ScanStep
  | ascii
  | hiragana
  | katakana
  | miss
  | nearMiss
  deriving DecidableEq, Repr

/-- The hits a step counts. -/
def ScanStep.hits : ScanStep → ℕ
  | .ascii | .hiragana | .katakana => 1
  | .miss | .nearMiss => 0

/-- The fuel of a round. -/
def ScanStep.fuel : ScanStep → ℕ
  | .ascii => 55
  | .hiragana => 117
  | .katakana => 179
  | .miss => 175
  | .nearMiss => 63

theorem ScanStep.le_fuel (t : ScanStep) : 55 ≤ t.fuel := by
  cases t <;> decide

/-- The bytes a round passes over beyond the first. -/
def ScanStep.skip : ScanStep → ℕ
  | .ascii => 1
  | .hiragana | .katakana => 5
  | .miss | .nearMiss => 0

/-- What the round at `x`, `y` and the bytes `s` after them finds. -/
def scanStep (x y : UInt8) (s : List UInt8) : ScanStep :=
  if isByteO x && isByteO y then .ascii
  else if hiraganaBytes <+: x :: y :: s then .hiragana
  else if katakanaBytes <+: x :: y :: s then .katakana
  else if 4 ≤ s.length then .miss
  else .nearMiss

/-- The scan through the bytes that are left. -/
def byteSteps : List UInt8 → List ScanStep
  | x :: y :: s => scanStep x y s :: byteSteps ((y :: s).drop (scanStep x y s).skip)
  | _ => []
termination_by s => s.length
decreasing_by simp only [List.length_drop, List.length_cons]; omega

/-- The hits of a scan. -/
def scanHits (l : List ScanStep) : ℕ := (l.map ScanStep.hits).sum

/-- The fuel of a scan. -/
def scanFuel (l : List ScanStep) : ℕ := (l.map ScanStep.fuel).sum

@[simp] theorem scanHits_nil : scanHits [] = 0 := rfl
@[simp] theorem scanFuel_nil : scanFuel [] = 0 := rfl
@[simp] theorem scanHits_cons (t : ScanStep) (l : List ScanStep) :
    scanHits (t :: l) = t.hits + scanHits l := rfl
@[simp] theorem scanFuel_cons (t : ScanStep) (l : List ScanStep) :
    scanFuel (t :: l) = t.fuel + scanFuel l := rfl
@[simp] theorem scanHits_append (l m : List ScanStep) :
    scanHits (l ++ m) = scanHits l + scanHits m := by simp [scanHits]
@[simp] theorem scanFuel_append (l m : List ScanStep) :
    scanFuel (l ++ m) = scanFuel l + scanFuel m := by simp [scanFuel]

/-! ### Machine numbers -/

/-- A natural number as an `i32`. -/
abbrev nat32 (n : ℕ) : BitVec 32 := BitVec.ofNat 32 n

/-- A byte as an `i32`. -/
abbrev byte32 (b : UInt8) : BitVec 32 := BitVec.ofNat 32 b.toNat

theorem nat32_toInt {n : ℕ} (h : n < 2 ^ 31) : (nat32 n).toInt = n := by
  rw [BitVec.toInt_eq_toNat_of_lt] <;> rw [BitVec.toNat_ofNat, Nat.mod_eq_of_lt] <;> omega

theorem nat32_slt {m n : ℕ} (hm : m < 2 ^ 31) (hn : n < 2 ^ 31) :
    (nat32 m).slt (nat32 n) = decide (m < n) := by
  rw [BitVec.slt, nat32_toInt hm, nat32_toInt hn]
  simp

theorem nat32_sle {m n : ℕ} (hm : m < 2 ^ 31) (hn : n < 2 ^ 31) :
    (nat32 m).sle (nat32 n) = decide (m ≤ n) := by
  rw [BitVec.sle, nat32_toInt hm, nat32_toInt hn]
  simp

/-- The exit test `$i >= $len - 1`, also for the empty message, where `$len - 1` is negative. -/
theorem pred_sle {m n : ℕ} (hm : m < 2 ^ 31) (hn : n < 2 ^ 31) :
    (nat32 n - 1#32).sle (nat32 m) = decide (n ≤ m + 1) := by
  cases n with
  | zero =>
    rw [BitVec.sle, nat32_toInt hm, show (nat32 0 - 1#32).toInt = -1 by decide]
    simp
  | succ n =>
    have hpred : nat32 (n + 1) - 1#32 = nat32 n := by
      rw [nat32, BitVec.ofNat_add]
      exact BitVec.add_sub_cancel _ _
    rw [hpred, nat32_sle (by omega) hm]
    simp

theorem byte32_eq (b v : UInt8) : (byte32 b == byte32 v) = (b == v) := by
  have hb := b.toNat_lt
  have hv := v.toNat_lt
  have : byte32 b = byte32 v ↔ b = v := by
    rw [← BitVec.toNat_inj, BitVec.toNat_ofNat, BitVec.toNat_ofNat, Nat.mod_eq_of_lt (by omega),
      Nat.mod_eq_of_lt (by omega), UInt8.toNat_inj]
  by_cases h : b = v
  · simp [h]
  · simp [h, this.not.2 h]

@[simp] theorem ofBool_and (a b : Bool) : ofBool a &&& ofBool b = ofBool (a && b) := by
  cases a <;> cases b <;> rfl

@[simp] theorem ofBool_or (a b : Bool) : ofBool a ||| ofBool b = ofBool (a || b) := by
  cases a <;> cases b <;> rfl

@[simp] theorem ofBool_eq_zero (a : Bool) : ofBool a = 0#32 ↔ a = false := by
  cases a <;> simp [ofBool]

/-! ### Fragments of the loop body -/

/-- What is known about the functions before `analyze`. -/
abbrev known (mem : Memory) : KnownEnv := linkKnown mem helpers

/-- The locals of `analyze`. -/
abbrev frame (p n k s i c x y : BitVec 32) : Frame :=
  ⟨[.i32 p, .i32 n, .i32 k, .i32 s, .i32 i, .i32 c, .i32 x, .i32 y], []⟩

variable {mem : Memory}

/-- `call $byte` costs four units. -/
theorem eval_byte {a : BitVec 32} {b : UInt8} (h : mem.load8 a.toNat = some b) (ls st : List Val) :
    eval (known mem) mem (.call 2) ⟨ls, .i32 a :: st⟩ = some (.next ⟨ls, .i32 (byte32 b) :: st⟩, 4) := by
  simp [eval, evals, known, linkKnown, helpers, byte, Func.known, Known.andThen, Known.plus,
    Op.apply, Op.cost, results, h]

/-- `call $is_ascii_o` costs nine units. -/
theorem eval_isAsciiO (b : UInt8) (ls st : List Val) :
    eval (known mem) mem (.call 1) ⟨ls, .i32 (byte32 b) :: st⟩ =
      some (.next ⟨ls, .i32 (ofBool (isByteO b)) :: st⟩, 9) := by
  have h1 : (byte32 b == 111#32) = (b == 111) := byte32_eq b 111
  have h2 : (byte32 b == 79#32) = (b == 79) := byte32_eq b 79
  simp [eval, evals, known, linkKnown, helpers, isAsciiO, isByteO, Func.known, Known.andThen,
    Known.plus, Op.apply, Op.cost, results, BinOp.apply, h1, h2]

section Fragments

variable {p n i : ℕ} {k s c x y : BitVec 32} {a b : UInt8}

theorem nat32_add (m n : ℕ) : nat32 m + nat32 n = nat32 (m + n) := (BitVec.ofNat_add m n).symm

theorem nat32_toNat {m : ℕ} (h : m < 2 ^ 32) : (nat32 m).toNat = m := by
  rw [BitVec.toNat_ofNat, Nat.mod_eq_of_lt h]

/-- Fewer than two bytes are left: the loop is left for `$done`. -/
theorem evals_loopHead_exit (hi : i < 2 ^ 31) (hn : n < 2 ^ 31) (h : n ≤ i + 1) :
    evals (known mem) mem loopHead (frame (nat32 p) (nat32 n) k s (nat32 i) c x y) =
      some (.br 1 (frame (nat32 p) (nat32 n) k s (nat32 i) c x y), 6) := by
  have hle : (nat32 n - 1#32).sle (nat32 i) = true := by rw [pred_sle hi hn, decide_eq_true h]
  simp [loopHead, BinOp.apply, -ne_eq, hle, ofBool]

theorem evals_loopHead_next (hi : i < 2 ^ 31) (hn : n < 2 ^ 31) (h : i + 1 < n) :
    evals (known mem) mem loopHead (frame (nat32 p) (nat32 n) k s (nat32 i) c x y) =
      some (.next (frame (nat32 p) (nat32 n) k s (nat32 i) c x y), 6) := by
  have hle : (nat32 n - 1#32).sle (nat32 i) = false := by
    rw [pred_sle hi hn, decide_eq_false (by omega)]
  simp [loopHead, BinOp.apply, -ne_eq, hle, ofBool]

theorem evals_loadPair (hp : p + i + 1 < 2 ^ 32) (ha : mem.load8 (p + i) = some a)
    (hb : mem.load8 (p + i + 1) = some b) :
    evals (known mem) mem loadPair (frame (nat32 p) (nat32 n) k s (nat32 i) c x y) =
      some (.next (frame (nat32 p) (nat32 n) k s (nat32 i) c (byte32 a) (byte32 b)), 18) := by
  have ha' : mem.load8 (nat32 p + nat32 i).toNat = some a := by
    rw [nat32_add, nat32_toNat (by omega), ha]
  have hb' : mem.load8 (nat32 p + nat32 i + 1#32).toNat = some b := by
    rw [nat32_add, nat32_add, nat32_toNat hp, hb]
  simp [loadPair, b0, b1, BinOp.apply, evals_cons_next (eval_byte ha' _ _),
    evals_cons_next (eval_byte hb' _ _)]

/-- ASCII `oo`: the count rises and the scan moves on by two bytes. -/
theorem evals_asciiTest_hit (h : isByteO a && isByteO b) :
    evals (known mem) mem asciiTest
      (frame (nat32 p) (nat32 n) k s (nat32 i) c (byte32 a) (byte32 b)) =
      some (.br 0 (frame (nat32 p) (nat32 n) k s (nat32 (i + 2)) (c + 1) (byte32 a) (byte32 b)),
        31) := by
  have hit : evals (known mem) mem (hitBy 2 1)
      (frame (nat32 p) (nat32 n) k s (nat32 i) c (byte32 a) (byte32 b)) =
      some (.br 1 (frame (nat32 p) (nat32 n) k s (nat32 (i + 2)) (c + 1) (byte32 a) (byte32 b)),
        9) := by
    simp [hitBy, Guest.i, count, BinOp.apply, BitVec.ofNat_add]
  simp only [asciiTest, evals_localGet, List.getElem?_cons_succ, List.getElem?_cons_zero,
    evals_cons_next (eval_isAsciiO _ _ _), evals_i32Bin, BinOp.apply, ofBool_and, Known.plus_plus]
  rw [evals_if_br (by simpa using h) hit]
  rfl

theorem evals_asciiTest_miss (h : ¬ (isByteO a && isByteO b)) :
    evals (known mem) mem asciiTest
      (frame (nat32 p) (nat32 n) k s (nat32 i) c (byte32 a) (byte32 b)) =
      some (.next (frame (nat32 p) (nat32 n) k s (nat32 i) c (byte32 a) (byte32 b)), 22) := by
  simp only [asciiTest, evals_localGet, List.getElem?_cons_succ, List.getElem?_cons_zero,
    evals_cons_next (eval_isAsciiO _ _ _), evals_i32Bin, BinOp.apply, ofBool_and, Known.plus_plus]
  rw [evals_if_zero (by simpa [ofBool] using h), evals_nil]
  rfl

theorem evals_andByte {q : Bool} {j : ℕ} {d v : UInt8} {is : List Instr} {j' v' : BitVec 32}
    (ej : j' = nat32 j) (ev : v' = byte32 v) (hj : p + i + j < 2 ^ 32)
    (hd : mem.load8 (p + i + j) = some d) :
    evals (known mem) mem (andByte j' v' ++ is)
      ⟨(frame (nat32 p) (nat32 n) k s (nat32 i) c x y).locals, [.i32 (ofBool q)]⟩ =
      (evals (known mem) mem is
        ⟨(frame (nat32 p) (nat32 n) k s (nat32 i) c x y).locals,
          [.i32 (ofBool (q && d == v))]⟩).plus 12 := by
  have hd' : mem.load8 (nat32 p + nat32 i + nat32 j).toNat = some d := by
    rw [nat32_add, nat32_add, nat32_toNat hj, hd]
  subst ej ev
  simp [andByte, BinOp.apply, evals_cons_next (eval_byte hd' _ _), byte32_eq]

/-- The condition that `kanaMatch` computes from six bytes. -/
def isKana (mid last a b d₂ d₃ d₄ d₅ : UInt8) : Bool :=
  a == 227 && b == mid && d₂ == last && d₃ == 227 && d₄ == mid && d₅ == last

variable {mid last d₂ d₃ d₄ d₅ : UInt8}

theorem evals_kanaMatch {is : List Instr} (hp : p + i + 5 < 2 ^ 32)
    (h₂ : mem.load8 (p + i + 2) = some d₂) (h₃ : mem.load8 (p + i + 3) = some d₃)
    (h₄ : mem.load8 (p + i + 4) = some d₄) (h₅ : mem.load8 (p + i + 5) = some d₅) :
    evals (known mem) mem (kanaMatch (byte32 mid) (byte32 last) ++ is)
      (frame (nat32 p) (nat32 n) k s (nat32 i) c (byte32 a) (byte32 b)) =
      (evals (known mem) mem is
        ⟨(frame (nat32 p) (nat32 n) k s (nat32 i) c (byte32 a) (byte32 b)).locals,
          [.i32 (ofBool (isKana mid last a b d₂ d₃ d₄ d₅))]⟩).plus 55 := by
  have ha : (byte32 a == 227) = (a == 227) := byte32_eq a 227
  have e₂ : (2 : BitVec 32) = nat32 2 := rfl
  have e₃ : (3 : BitVec 32) = nat32 3 := rfl
  have e₄ : (4 : BitVec 32) = nat32 4 := rfl
  have e₅ : (5 : BitVec 32) = nat32 5 := rfl
  have lead : (227 : BitVec 32) = byte32 227 := rfl
  have elast : byte32 last = byte32 last := rfl
  simp only [kanaMatch, List.append_assoc, List.cons_append, List.nil_append, evals_localGet,
    List.getElem?_cons_succ, List.getElem?_cons_zero, evals_i32Const, evals_i32Bin, BinOp.apply, ha,
    byte32_eq, ofBool_and, b0, b1]
  rw [evals_andByte e₂ elast (by omega) h₂, evals_andByte e₃ lead (by omega) h₃,
    evals_andByte e₄ (Eq.refl (byte32 mid)) (by omega) h₄, evals_andByte e₅ elast (by omega) h₅]
  simp only [Known.plus_plus]
  rfl

/-- Fewer than six bytes are left. -/
theorem evals_kanaTest_short (hi : i + 5 < 2 ^ 31) (hn : n < 2 ^ 31) (h : n ≤ i + 5)
    (v w : BitVec 32) :
    evals (known mem) mem (kanaTest v w) (frame (nat32 p) (nat32 n) k s (nat32 i) c x y) =
      some (.next (frame (nat32 p) (nat32 n) k s (nat32 i) c x y), 6) := by
  have hlt : (nat32 i + 5).slt (nat32 n) = false := by
    rw [show (5 : BitVec 32) = nat32 5 from rfl, nat32_add, nat32_slt hi hn,
      decide_eq_false (by omega)]
  simp only [kanaTest, evals_localGet, Guest.i, len, List.getElem?_cons_succ,
    List.getElem?_cons_zero, evals_i32Const, evals_i32Bin, BinOp.apply, hlt]
  rw [evals_if_zero (ofBool_eq_zero false |>.2 rfl), evals_nil]
  rfl

section Kana

variable (hi : i + 5 < n) (hn : n < 2 ^ 31) (hp : p + i + 5 < 2 ^ 32)
  (h₂ : mem.load8 (p + i + 2) = some d₂) (h₃ : mem.load8 (p + i + 3) = some d₃)
  (h₄ : mem.load8 (p + i + 4) = some d₄) (h₅ : mem.load8 (p + i + 5) = some d₅)

include hi hn in
theorem evals_kanaTest_enough {o : Outcome} {q : ℕ}
    (h : evals (known mem) mem [ifElse (kanaMatch (byte32 mid) (byte32 last) ++
        [ifElse (hitBy 6 2) []]) []] ⟨(frame (nat32 p) (nat32 n) k s (nat32 i) c x y).locals,
          [.i32 (ofBool true)]⟩ = some (o, q)) :
    evals (known mem) mem (kanaTest (byte32 mid) (byte32 last))
      (frame (nat32 p) (nat32 n) k s (nat32 i) c x y) = some (o, 5 + q) := by
  have hlt : (nat32 i + 5).slt (nat32 n) = true := by
    rw [show (5 : BitVec 32) = nat32 5 from rfl, nat32_add, nat32_slt (by omega) hn,
      decide_eq_true hi]
  simp only [kanaTest, evals_localGet, Guest.i, len, List.getElem?_cons_succ,
    List.getElem?_cons_zero, evals_i32Const, evals_i32Bin, BinOp.apply, hlt, h, Known.plus_some]
  congr 2
  omega

include hi hn hp h₂ h₃ h₄ h₅

/-- A doubled kana: the count rises and the scan moves on by six bytes. -/
theorem evals_kanaTest_hit (h : isKana mid last a b d₂ d₃ d₄ d₅) :
    evals (known mem) mem (kanaTest (byte32 mid) (byte32 last))
      (frame (nat32 p) (nat32 n) k s (nat32 i) c (byte32 a) (byte32 b)) =
      some (.br 0 (frame (nat32 p) (nat32 n) k s (nat32 (i + 6)) (c + 1) (byte32 a) (byte32 b)),
        71) := by
  have hit : evals (known mem) mem (hitBy 6 2)
      (frame (nat32 p) (nat32 n) k s (nat32 i) c (byte32 a) (byte32 b)) =
      some (.br 2 (frame (nat32 p) (nat32 n) k s (nat32 (i + 6)) (c + 1) (byte32 a) (byte32 b)),
        9) := by
    simp [hitBy, Guest.i, count, BinOp.apply, BitVec.ofNat_add]
  have inner : evals (known mem) mem (kanaMatch (byte32 mid) (byte32 last) ++
      [ifElse (hitBy 6 2) []]) (frame (nat32 p) (nat32 n) k s (nat32 i) c (byte32 a) (byte32 b)) =
      some (.br 1 (frame (nat32 p) (nat32 n) k s (nat32 (i + 6)) (c + 1) (byte32 a) (byte32 b)),
        65) := by
    rw [evals_kanaMatch hp h₂ h₃ h₄ h₅, evals_if_br (by simpa using h) hit]
    rfl
  exact evals_kanaTest_enough hi hn (evals_if_br (by simp) inner)

theorem evals_kanaTest_miss (h : ¬ isKana mid last a b d₂ d₃ d₄ d₅) :
    evals (known mem) mem (kanaTest (byte32 mid) (byte32 last))
      (frame (nat32 p) (nat32 n) k s (nat32 i) c (byte32 a) (byte32 b)) =
      some (.next (frame (nat32 p) (nat32 n) k s (nat32 i) c (byte32 a) (byte32 b)), 62) := by
  have inner : evals (known mem) mem (kanaMatch (byte32 mid) (byte32 last) ++
      [ifElse (hitBy 6 2) []]) (frame (nat32 p) (nat32 n) k s (nat32 i) c (byte32 a) (byte32 b)) =
      some (.next (frame (nat32 p) (nat32 n) k s (nat32 i) c (byte32 a) (byte32 b)), 56) := by
    rw [evals_kanaMatch hp h₂ h₃ h₄ h₅, evals_if_zero (by simpa using h), evals_nil]
    rfl
  refine evals_kanaTest_enough (q := 57) hi hn ?_
  rw [evals_if_next (by simp) inner, evals_nil]
  rfl

end Kana

theorem evals_advance :
    evals (known mem) mem advance (frame (nat32 p) (nat32 n) k s (nat32 i) c x y) =
      some (.br 0 (frame (nat32 p) (nat32 n) k s (nat32 (i + 1)) c x y), 5) := by
  simp [advance, Guest.i, BinOp.apply, BitVec.ofNat_add]

/-- Comparing with a doubled kana is comparing with its six bytes. -/
theorem kanaBytes_prefix_iff {rest : List UInt8} :
    kanaBytes mid last <+: a :: b :: d₂ :: d₃ :: d₄ :: d₅ :: rest ↔
      isKana mid last a b d₂ d₃ d₄ d₅ = true := by
  simp only [kanaBytes, List.cons_prefix_cons, isKana, Bool.and_eq_true, beq_iff_eq, and_assoc]
  constructor
  · rintro ⟨h₀, h₁, h₂, h₃, h₄, h₅, -⟩
    exact ⟨h₀.symm, h₁.symm, h₂.symm, h₃.symm, h₄.symm, h₅.symm⟩
  · rintro ⟨h₀, h₁, h₂, h₃, h₄, h₅⟩
    exact ⟨h₀.symm, h₁.symm, h₂.symm, h₃.symm, h₄.symm, h₅.symm, List.nil_prefix⟩

/-- A doubled kana takes four bytes after the two that a round reads first. -/
theorem four_le_of_kanaBytes {rest : List UInt8} (h : kanaBytes mid last <+: a :: b :: rest) :
    4 ≤ rest.length := by
  have hlen := h.length_le
  simp only [kanaBytes, List.length_cons, List.length_nil] at hlen
  omega

end Fragments

/-! ### One round, and the whole scan -/

/-- The memory holds `bytes` from the address `p` on. -/
def Holds (mem : Memory) (p : ℕ) (bytes : List UInt8) : Prop :=
  ∀ j b, bytes[j]? = some b → mem.load8 (p + j) = some b

/-- The locals after a round that started at `i` and found `t`. -/
abbrev roundEnd (p n i : ℕ) (k s c : BitVec 32) (a b : UInt8) (t : ScanStep) : Frame :=
  frame (nat32 p) (nat32 n) k s (nat32 (i + 1 + t.skip)) (c + nat32 t.hits) (byte32 a) (byte32 b)

theorem Holds.load {p i : ℕ} {bytes l : List UInt8} (hm : Holds mem p bytes)
    (hd : bytes.drop i = l) {j : ℕ} {b : UInt8} (hj : l[j]? = some b) :
    mem.load8 (p + i + j) = some b := by
  rw [Nat.add_assoc]
  refine hm (i + j) b ?_
  rw [← List.getElem?_drop, hd, hj]

section Rounds

variable {bytes rest : List UInt8} {p i : ℕ} {k s c x y : BitVec 32} {a b : UInt8}

theorem length_of_drop (hd : bytes.drop i = a :: b :: rest) :
    bytes.length = i + 2 + rest.length := by
  have h := congrArg List.length hd
  simp only [List.length_drop, List.length_cons] at h
  omega

section Round

variable (hm : Holds mem p bytes) (hlen : bytes.length < 2 ^ 30) (hp : p + bytes.length < 2 ^ 32)
  (hd : bytes.drop i = a :: b :: rest)

include hm hlen hp hd

/-- Up to the comparisons, a round reads the next two bytes. -/
theorem evals_loopBody_pair {is : List Instr} {o : Outcome} {q : ℕ}
    (h : evals (known mem) mem is
      (frame (nat32 p) (nat32 bytes.length) k s (nat32 i) c (byte32 a) (byte32 b)) = some (o, q)) :
    evals (known mem) mem (loopHead ++ (loadPair ++ is))
      (frame (nat32 p) (nat32 bytes.length) k s (nat32 i) c x y) = some (o, 24 + q) := by
  have hl := length_of_drop hd
  have ha : mem.load8 (p + i) = some a := hm.load (j := 0) hd rfl
  have hb : mem.load8 (p + i + 1) = some b := hm.load hd rfl
  rw [evals_append_next (evals_loopHead_next (by omega) (by omega) (by omega)),
    evals_append_next (evals_loadPair (by omega) ha hb), h]
  simp only [Known.plus_some, ← Nat.add_assoc]

omit hm hlen hp hd in
/-- The scan never passes the end of the message. -/
theorem add_skip_le (hl : bytes.length = i + 2 + rest.length) :
    i + 1 + (scanStep a b rest).skip ≤ bytes.length := by
  unfold scanStep
  split_ifs with h₁ h₂ h₃
  · simp only [ScanStep.skip]; omega
  · have := four_le_of_kanaBytes h₂
    simp only [ScanStep.skip]; omega
  · have := four_le_of_kanaBytes h₃
    simp only [ScanStep.skip]; omega
  all_goals simp only [ScanStep.skip]; omega

/-- The kana tests of a round, with six bytes at hand. -/
theorem evals_kanaTests {d₂ d₃ d₄ d₅ : UInt8} {tl : List UInt8}
    (hr : rest = d₂ :: d₃ :: d₄ :: d₅ :: tl) (ho : ¬ (isByteO a && isByteO b)) :
    evals (known mem) mem (kanaTest 129 138 ++ (kanaTest 130 170 ++ advance))
      (frame (nat32 p) (nat32 bytes.length) k s (nat32 i) c (byte32 a) (byte32 b)) =
      some (.br 0 (roundEnd p bytes.length i k s c a b (scanStep a b rest)),
        (scanStep a b rest).fuel - 46) := by
  have hl := length_of_drop hd
  subst hr
  have h₂ : mem.load8 (p + i + 2) = some d₂ := hm.load hd rfl
  have h₃ : mem.load8 (p + i + 3) = some d₃ := hm.load hd rfl
  have h₄ : mem.load8 (p + i + 4) = some d₄ := hm.load hd rfl
  have h₅ : mem.load8 (p + i + 5) = some d₅ := hm.load hd rfl
  have hi : i + 5 < bytes.length := by simp only [List.length_cons] at hl; omega
  have hp' : p + i + 5 < 2 ^ 32 := by omega
  have hn : bytes.length < 2 ^ 31 := by omega
  rw [show kanaTest 129 138 = kanaTest (byte32 129) (byte32 138) from rfl,
    show kanaTest 130 170 = kanaTest (byte32 130) (byte32 170) from rfl]
  unfold scanStep
  rw [if_neg ho]
  simp only [hiraganaBytes, katakanaBytes, kanaBytes_prefix_iff]
  by_cases hh : isKana 129 138 a b d₂ d₃ d₄ d₅
  · rw [evals_append_br (evals_kanaTest_hit hi hn hp' h₂ h₃ h₄ h₅ hh), if_pos hh]
    rfl
  rw [if_neg hh, evals_append_next (evals_kanaTest_miss hi hn hp' h₂ h₃ h₄ h₅ hh)]
  by_cases hk : isKana 130 170 a b d₂ d₃ d₄ d₅
  · rw [evals_append_br (evals_kanaTest_hit hi hn hp' h₂ h₃ h₄ h₅ hk), if_pos hk]
    rfl
  · rw [if_neg hk, evals_append_next (evals_kanaTest_miss hi hn hp' h₂ h₃ h₄ h₅ hk), evals_advance,
      if_pos (by simp)]
    simp [ScanStep.hits, ScanStep.skip, ScanStep.fuel]

omit hm hp in
/-- The kana tests of a round near the end of the message. -/
theorem evals_kanaTests_short (hr : rest.length < 4) (ho : ¬ (isByteO a && isByteO b)) :
    evals (known mem) mem (kanaTest 129 138 ++ (kanaTest 130 170 ++ advance))
      (frame (nat32 p) (nat32 bytes.length) k s (nat32 i) c (byte32 a) (byte32 b)) =
      some (.br 0 (roundEnd p bytes.length i k s c a b (scanStep a b rest)),
        (scanStep a b rest).fuel - 46) := by
  have hl := length_of_drop hd
  have hi : i + 5 < 2 ^ 31 := by omega
  have hn : bytes.length < 2 ^ 31 := by omega
  have hs : scanStep a b rest = .nearMiss := by
    have hira : ¬ hiraganaBytes <+: a :: b :: rest :=
      fun hpre => (four_le_of_kanaBytes hpre).not_gt hr
    have kata : ¬ katakanaBytes <+: a :: b :: rest :=
      fun hpre => (four_le_of_kanaBytes hpre).not_gt hr
    rw [scanStep, if_neg ho, if_neg hira, if_neg kata, if_neg (by omega)]
  rw [hs, evals_append_next (evals_kanaTest_short hi hn (by omega) _ _),
    evals_append_next (evals_kanaTest_short hi hn (by omega) _ _), evals_advance]
  simp [ScanStep.hits, ScanStep.skip, ScanStep.fuel]

/-- One round of the loop: the bytes that are left decide what is found, what it costs and where
the scan goes on. -/
theorem evals_loopBody :
    evals (known mem) mem loopBody (frame (nat32 p) (nat32 bytes.length) k s (nat32 i) c x y) =
      some (.br 0 (roundEnd p bytes.length i k s c a b (scanStep a b rest)),
        (scanStep a b rest).fuel) := by
  simp only [loopBody, List.append_assoc]
  by_cases ho : isByteO a && isByteO b
  · have hs : scanStep a b rest = .ascii := if_pos ho
    rw [hs, evals_loopBody_pair hm hlen hp hd (evals_append_br (evals_asciiTest_hit ho))]
    rfl
  have kana : evals (known mem) mem (kanaTest 129 138 ++ (kanaTest 130 170 ++ advance))
      (frame (nat32 p) (nat32 bytes.length) k s (nat32 i) c (byte32 a) (byte32 b)) =
      some (.br 0 (roundEnd p bytes.length i k s c a b (scanStep a b rest)),
        (scanStep a b rest).fuel - 46) := by
    rcases Nat.lt_or_ge rest.length 4 with hr | hr
    · exact evals_kanaTests_short hlen hd hr ho
    · obtain ⟨d₂, d₃, d₄, d₅, tl, hr⟩ : ∃ d₂ d₃ d₄ d₅ tl, rest = d₂ :: d₃ :: d₄ :: d₅ :: tl := by
        rcases rest with _ | ⟨d₂, _ | ⟨d₃, _ | ⟨d₄, _ | ⟨d₅, tl⟩⟩⟩⟩
        case cons.cons.cons.cons => exact ⟨d₂, d₃, d₄, d₅, tl, rfl⟩
        all_goals simp at hr
      exact evals_kanaTests hm hlen hp hd hr ho
  rw [evals_loopBody_pair hm hlen hp hd
    ((evals_append_next (evals_asciiTest_miss ho)).trans (by rw [kana, Known.plus_some]))]
  have := (scanStep a b rest).le_fuel
  congr 2
  omega

end Round

/-- The loop takes the steps of the scan through the bytes that are left, then six units to find
the end: no round loads a byte beyond the message. -/
theorem loopCosts_scan (hm : Holds mem p bytes) (hlen : bytes.length < 2 ^ 30)
    (hp : p + bytes.length < 2 ^ 32) (hi : i ≤ bytes.length) (hd : bytes.drop i = rest) :
    ∃ i' x' y', LoopCosts (execs (link mem helpers) mem loopBody)
      (frame (nat32 p) (nat32 bytes.length) k s (nat32 i) c x y)
      (scanFuel (byteSteps rest) + 6)
      (.br 0 (frame (nat32 p) (nat32 bytes.length) k s (nat32 i')
        (c + nat32 (scanHits (byteSteps rest))) x' y')) := by
  -- on the bytes that are left, as the text steps read them
  induction rest using byteSteps.induct generalizing i c x y with
  | case1 a b rest ih =>
    have hl := length_of_drop hd
    have next : bytes.drop (i + 1 + (scanStep a b rest).skip) =
        (b :: rest).drop (scanStep a b rest).skip := by
      rw [← List.drop_drop, ← List.drop_drop, hd, List.drop_one, List.tail_cons]
    obtain ⟨i', x', y', h⟩ := ih (i := i + 1 + (scanStep a b rest).skip)
      (c := c + nat32 (scanStep a b rest).hits) (x := byte32 a) (y := byte32 b)
      (add_skip_le hl) next
    refine ⟨i', x', y', ?_⟩
    rw [byteSteps, scanFuel_cons, scanHits_cons, ← nat32_add, ← BitVec.add_assoc, Nat.add_assoc]
    refine LoopCosts.again (costs_of_evals (evals_loopBody hm hlen hp hd)) ?_ h
    have := (scanStep a b rest).le_fuel
    omega
  | case2 rest hne =>
    -- fewer than two bytes are left, so the head of the loop leaves it
    have hlast : bytes.length ≤ i + 1 := by
      rcases rest with _ | ⟨a, _ | ⟨b, rest⟩⟩
      · have := List.drop_eq_nil_iff.1 hd
        omega
      · have := congrArg List.length hd
        simp only [List.length_drop, List.length_cons, List.length_nil] at this
        omega
      · exact absurd rfl (hne a b rest)
    have hnil : byteSteps rest = [] := by
      rw [byteSteps]
      exact hne
    have exit : evals (known mem) mem loopBody
        (frame (nat32 p) (nat32 bytes.length) k s (nat32 i) c x y) =
        some (.br 1 (frame (nat32 p) (nat32 bytes.length) k s (nat32 i) c x y), 6) := by
      simp only [loopBody, List.append_assoc]
      exact evals_append_br (evals_loopHead_exit (by omega) (by omega) hlast)
    refine ⟨i, x, y, ?_⟩
    rw [hnil]
    have round := @LoopCosts.exit _ (frame (nat32 p) (nat32 bytes.length) k s (nat32 i) c x y) _ _
      (costs_of_evals exit) (by simp)
    simpa [leave] using round

end Rounds

end OoBot.Guest
