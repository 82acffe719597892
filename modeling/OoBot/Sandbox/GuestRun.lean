import OoBot.Sandbox.Abi
import OoBot.Sandbox.GuestText

/-!
# A run of `analyze`

The scan, then the proposal for the count and the flags.  `costs_analyze` gives the result of a call
on the bytes of a message, and the fuel that the call needs; `guestFuel` is that amount as a function
of the message, `11` units around the scan and its tail included.
-/

namespace OoBot.Guest

open Wasm Instr

/-- The proposal for a total count and the special flag. -/
def guestProposal (total : ℕ) (special : Bool) : ActionProposal :=
  if special then .specialPhrase
  else if total = 0 then .noop
  else if total = 1 then .reactOnce
  else .sendStamped (UInt8.ofNat (min total 255))

/-- The total as the guest reads it: it is an `i32`, so a sum of `2 ^ 31` or more is negative and
counts as nothing. -/
def readTotal (sum : ℕ) : ℕ := if sum < 2 ^ 31 then sum else 0

theorem readTotal_of_lt {sum : ℕ} (h : sum < 2 ^ 31) : readTotal sum = sum := if_pos h

/-- The fuel of `finish`. -/
def finishFuel (total : ℕ) (special : Bool) : ℕ :=
  if special then 9 else if total = 0 then 13 else if total = 1 then 17
  else if total ≤ 255 then 24 else 26

/-- The fuel of a call on a message within the sentinel's limit: one unit to enter, four for the
sentinel, six for the last exit test, the scan and the tail. -/
def guestFuel (content : Text) (kanji : ℕ) (special : Bool) : ℕ :=
  11 + scanFuel (textSteps content) +
    finishFuel (readTotal (countOoSequences content + kanji)) special

/-- The guest's `i32` for a truth value. -/
abbrev flag (b : Bool) : BitVec 32 := if b then 1 else 0

/-! ### The tail -/

section Finish

variable {mem : Memory} {p n k i c x y : BitVec 32} {total : ℕ}

theorem encodeWire_noop : ActionProposal.noop.encodeWire = 0#64 := by decide

theorem encodeWire_reactOnce : ActionProposal.reactOnce.encodeWire = 4294967297#64 := by decide

theorem encodeWire_specialPhrase : ActionProposal.specialPhrase.encodeWire = 12884901889#64 := by
  decide

theorem encodeWire_sendStamped {m : ℕ} (h : m < 256) :
    (8589934592#64 ||| (nat32 m).setWidth 64) =
      (ActionProposal.sendStamped (UInt8.ofNat m)).encodeWire := by
  have hm : (UInt8.ofNat m).toNat = m := by rw [UInt8.toNat_ofNat', Nat.mod_eq_of_lt h]
  simp only [ActionProposal.encodeWire, ActionProposal.wireParts, hm]
  rfl

theorem evals_addKanji (s : BitVec 32) (ht : c + k = nat32 total) :
    evals (known mem) mem addKanji (frame p n k s i c x y) =
      some (.next (frame p n k s i (nat32 total) x y), 4) := by
  simp [addKanji, count, kanjiCount, BinOp.apply, ht]

theorem evals_specialTest_hit :
    evals (known mem) mem specialTest (frame p n k (flag true) i c x y) =
      some (.ret ⟨(frame p n k (flag true) i c x y).locals, [.i64 12884901889]⟩, 5) := by
  have body : evals (known mem) mem [i64Const 12884901889, ret]
      (frame p n k (flag true) i c x y) =
      some (.ret ⟨(frame p n k (flag true) i c x y).locals, [.i64 12884901889]⟩, 1) := by
    simp
  simp only [specialTest, evals_localGet, specialHit, List.getElem?_cons_succ,
    List.getElem?_cons_zero, evals_i32Const, evals_i32Bin, BinOp.apply]
  rw [evals_if_ret (by decide) body]
  rfl

theorem evals_specialTest_miss :
    evals (known mem) mem specialTest (frame p n k (flag false) i c x y) =
      some (.next (frame p n k (flag false) i c x y), 4) := by
  simp only [specialTest, evals_localGet, specialHit, List.getElem?_cons_succ,
    List.getElem?_cons_zero, evals_i32Const, evals_i32Bin, BinOp.apply]
  rw [evals_if_zero (by decide), evals_nil]
  rfl

theorem evals_zeroTest_hit (s : BitVec 32) (hle : c.sle 0 = true) :
    evals (known mem) mem zeroTest (frame p n k s i c x y) =
      some (.ret ⟨(frame p n k s i c x y).locals, [.i64 0]⟩, 5) := by
  have body : evals (known mem) mem [i64Const 0, ret] (frame p n k s i c x y) =
      some (.ret ⟨(frame p n k s i c x y).locals, [.i64 0]⟩, 1) := by
    simp
  simp only [zeroTest, evals_localGet, count, List.getElem?_cons_succ, List.getElem?_cons_zero,
    evals_i32Const, evals_i32Bin, BinOp.apply, hle]
  rw [evals_if_ret (by decide) body]
  rfl

theorem nat32_sle_zero (hge : 2 ^ 31 ≤ total) (hlt : total < 2 ^ 32) :
    (nat32 total).sle 0 = true := by
  rw [BitVec.sle, BitVec.toInt_eq_toNat_cond, nat32_toNat hlt, if_neg (by omega)]
  exact decide_eq_true (by simp; omega)

theorem evals_zeroTest_miss (s : BitVec 32) (h0 : 0 < total) (hlt : total < 2 ^ 31) :
    evals (known mem) mem zeroTest (frame p n k s i (nat32 total) x y) =
      some (.next (frame p n k s i (nat32 total) x y), 4) := by
  have hle : (nat32 total).sle 0 = false := by
    rw [show (0 : BitVec 32) = nat32 0 from rfl, nat32_sle hlt (by decide)]
    exact decide_eq_false (by omega)
  simp only [zeroTest, evals_localGet, count, List.getElem?_cons_succ, List.getElem?_cons_zero,
    evals_i32Const, evals_i32Bin, BinOp.apply, hle]
  rw [evals_if_zero (by decide), evals_nil]
  rfl

theorem evals_oneTest_hit (s : BitVec 32) :
    evals (known mem) mem oneTest (frame p n k s i (nat32 1) x y) =
      some (.ret ⟨(frame p n k s i (nat32 1) x y).locals, [.i64 4294967297]⟩, 5) := by
  have body : evals (known mem) mem [i64Const 4294967297, ret]
      (frame p n k s i (nat32 1) x y) =
      some (.ret ⟨(frame p n k s i (nat32 1) x y).locals, [.i64 4294967297]⟩, 1) := by
    simp
  simp only [oneTest, evals_localGet, count, List.getElem?_cons_succ, List.getElem?_cons_zero,
    evals_i32Const, evals_i32Bin, BinOp.apply]
  rw [evals_if_ret (by decide) body]
  rfl

theorem evals_oneTest_miss (s : BitVec 32) (h1 : 1 < total) (hlt : total < 2 ^ 31) :
    evals (known mem) mem oneTest (frame p n k s i (nat32 total) x y) =
      some (.next (frame p n k s i (nat32 total) x y), 4) := by
  have hne : (nat32 total == 1) = false := by
    rw [beq_eq_false_iff_ne, ne_eq, ← BitVec.toNat_inj, nat32_toNat (by omega)]
    exact Nat.ne_of_gt h1
  simp only [oneTest, evals_localGet, count, List.getElem?_cons_succ, List.getElem?_cons_zero,
    evals_i32Const, evals_i32Bin, BinOp.apply, hne]
  rw [evals_if_zero (by decide), evals_nil]
  rfl

theorem evals_clamp (s : BitVec 32) (hlt : total < 2 ^ 31) :
    evals (known mem) mem clamp (frame p n k s i (nat32 total) x y) =
      some (.next (frame p n k s i (nat32 (min total 255)) x y), if total ≤ 255 then 4 else 6) := by
  have hgt : (nat32 255).slt (nat32 total) = decide (255 < total) := nat32_slt (by decide) hlt
  simp only [clamp, evals_localGet, count, List.getElem?_cons_succ, List.getElem?_cons_zero,
    evals_i32Const, evals_i32Bin, BinOp.apply]
  show Known.plus _ (Known.plus _ (Known.plus _ (evals _ _ _ ⟨_, [.i32 (ofBool
    ((nat32 255).slt (nat32 total)))]⟩))) = _
  rw [hgt]
  by_cases h : total ≤ 255
  · rw [if_pos h, Nat.min_eq_left h, decide_eq_false (by omega), evals_if_zero (by decide),
      evals_nil]
    rfl
  · have body : evals (known mem) mem [i32Const 255, localSet count]
        (frame p n k s i (nat32 total) x y) = some (.next (frame p n k s i (nat32 255) x y), 2) := by
      simp [count]
    rw [if_neg h, Nat.min_eq_right (by omega), decide_eq_true (by omega),
      evals_if_next (by decide) body, evals_nil]
    rfl

theorem evals_sendCount (s : BitVec 32) {m : ℕ} (h : m < 256) :
    evals (known mem) mem sendCount (frame p n k s i (nat32 m) x y) =
      some (.next ⟨(frame p n k s i (nat32 m) x y).locals,
        [.i64 (ActionProposal.sendStamped (UInt8.ofNat m)).encodeWire]⟩, 4) := by
  rw [← encodeWire_sendStamped h]
  simp [sendCount, count]

/-- After the loop: the proposal for the total count. -/
theorem evals_finish (special : Bool) (ht : c + k = nat32 total) (hlt : total < 2 ^ 32) :
    ∃ o, evals (known mem) mem finish (frame p n k (flag special) i c x y) =
        some (o, finishFuel (readTotal total) special) ∧
      results o = .ok [.i64 (guestProposal (readTotal total) special).encodeWire] := by
  simp only [finish, List.append_assoc]
  rw [evals_append_next (evals_addKanji _ ht)]
  cases special with
  | true =>
    rw [evals_append_ret evals_specialTest_hit]
    refine ⟨_, rfl, ?_⟩
    rw [guestProposal, if_pos rfl, encodeWire_specialPhrase]
    rfl
  | false =>
    rw [evals_append_next evals_specialTest_miss]
    -- a negative total leaves at the test for zero
    by_cases hover : 2 ^ 31 ≤ total
    · rw [evals_append_ret (evals_zeroTest_hit _ (nat32_sle_zero hover hlt)), readTotal,
        if_neg (by omega)]
      refine ⟨_, rfl, ?_⟩
      rw [guestProposal, if_neg (by decide), if_pos rfl, encodeWire_noop]
      rfl
    have hlt : total < 2 ^ 31 := by omega
    rw [readTotal_of_lt hlt]
    rcases Nat.lt_trichotomy total 1 with h | rfl | h
    · obtain rfl : total = 0 := by omega
      rw [evals_append_ret (evals_zeroTest_hit _ (by decide))]
      refine ⟨_, rfl, ?_⟩
      rw [guestProposal, if_neg (by decide), if_pos rfl, encodeWire_noop]
      rfl
    · rw [evals_append_next (evals_zeroTest_miss _ (by decide) hlt),
        evals_append_ret (evals_oneTest_hit _)]
      refine ⟨_, rfl, ?_⟩
      rw [guestProposal, if_neg (by decide), if_neg (by decide), if_pos rfl, encodeWire_reactOnce]
      rfl
    · rw [evals_append_next (evals_zeroTest_miss _ (by omega) hlt),
        evals_append_next (evals_oneTest_miss _ h hlt), evals_append_next (evals_clamp _ hlt),
        evals_sendCount _ (by omega)]
      have h0 : total ≠ 0 := by omega
      have h1 : total ≠ 1 := by omega
      have fuel : 4 + (4 + (4 + (4 + ((if total ≤ 255 then 4 else 6) + 4)))) =
          finishFuel total false := by
        simp only [finishFuel, Bool.false_eq_true, if_false, h0, h1]
        split_ifs <;> rfl
      simp only [Known.plus_some, fuel]
      refine ⟨_, rfl, ?_⟩
      simp only [results, guestProposal, Bool.false_eq_true, if_false, h0, h1]

end Finish

/-! ### A call -/

section Call

variable {mem : Memory} {p : ℕ} {bytes : List UInt8} {k s : BitVec 32}

/-- The arguments of `analyze`. -/
abbrev args (p n k s : BitVec 32) : List Val := [.i32 p, .i32 n, .i32 k, .i32 s]

/-- The loop of `analyze`, inside its block, from the start of a message. -/
theorem costs_scan (hm : Holds mem p bytes) (hlen : bytes.length < 2 ^ 30)
    (hp : p + bytes.length < 2 ^ 32) :
    ∃ i' x' y', Costs (exec (link mem helpers) mem (.block [.loop loopBody])
        (frame (nat32 p) (nat32 bytes.length) k s 0 0 0 0)) (scanFuel (byteSteps bytes) + 6)
      (.next (frame (nat32 p) (nat32 bytes.length) k s (nat32 i')
        (nat32 (scanHits (byteSteps bytes))) x' y')) := by
  obtain ⟨i', x', y', h⟩ := loopCosts_scan (k := k) (s := s) (c := nat32 0) (x := 0) (y := 0) hm hlen hp
    (Nat.zero_le _) (List.drop_zero (l := bytes))
  refine ⟨i', x', y', ?_⟩
  rw [nat32_add, Nat.zero_add] at h
  exact @costs_block _ _ _ (frame (nat32 p) (nat32 bytes.length) k s 0 0 0 0) _ _
    (costs_singleton (costs_loop h))

/-- A message within the sentinel's limit passes it. -/
theorem evals_sentinel_next (hlen : bytes.length ≤ 32768) :
    evals (known mem) mem sentinel (frame (nat32 p) (nat32 bytes.length) k s 0 0 0 0) =
      some (.next (frame (nat32 p) (nat32 bytes.length) k s 0 0 0 0), 4) := by
  have hgt : (32768 : BitVec 32).slt (nat32 bytes.length) = false := by
    rw [show (32768 : BitVec 32) = nat32 32768 from rfl, nat32_slt (by decide) (by omega)]
    exact decide_eq_false (by omega)
  simp only [sentinel, evals_localGet, len, List.getElem?_cons_succ, List.getElem?_cons_zero,
    evals_i32Const, evals_i32Bin, BinOp.apply, hgt]
  rw [evals_if_zero (by decide), evals_nil]
  rfl

/-- The code of `analyze` up to the total that the proposal is made from. -/
def totalCode : List Instr := sentinel ++ [block [loop loopBody]] ++ addKanji

/-- The total is the count of the scan plus `$kanji_count`, as an `i32`. -/
theorem costs_totalCode (hm : Holds mem p bytes) (hlen : bytes.length ≤ 32768)
    (hp : p + bytes.length < 2 ^ 32) :
    ∃ q i' x' y', Costs (execs (link mem helpers) mem totalCode
        (frame (nat32 p) (nat32 bytes.length) k s 0 0 0 0)) q
      (.next (frame (nat32 p) (nat32 bytes.length) k s i'
        (nat32 (scanHits (byteSteps bytes)) + k) x' y')) := by
  obtain ⟨i', x', y', scan⟩ := costs_scan (k := k) (s := s) hm (hlen.trans_lt (by decide)) hp
  have add : evals (known mem) mem addKanji (frame (nat32 p) (nat32 bytes.length) k s (nat32 i')
      (nat32 (scanHits (byteSteps bytes))) x' y') =
      some (.next (frame (nat32 p) (nat32 bytes.length) k s (nat32 i')
        (nat32 (scanHits (byteSteps bytes)) + k) x' y'), 4) := by
    simp [addKanji, count, kanjiCount, BinOp.apply]
  exact ⟨_, _, _, _, costs_append (costs_append (costs_of_evals (evals_sentinel_next hlen))
    (costs_singleton scan)) (costs_of_evals add)⟩

/-- A call on a message within the sentinel's limit. -/
theorem costs_analyze_bytes {kanji : ℕ} (special : Bool) (hm : Holds mem p bytes)
    (hlen : bytes.length ≤ 32768) (hp : p + bytes.length < 2 ^ 32)
    (hk : scanHits (byteSteps bytes) + kanji < 2 ^ 32) :
    Costs (analyze.enter (link mem helpers) mem
        (args (nat32 p) (nat32 bytes.length) (nat32 kanji) (flag special)))
      (11 + scanFuel (byteSteps bytes) +
        finishFuel (readTotal (scanHits (byteSteps bytes) + kanji)) special)
      (.ok [.i64 (guestProposal (readTotal (scanHits (byteSteps bytes) + kanji))
        special).encodeWire]) := by
  obtain ⟨i', x', y', scan⟩ := costs_scan (k := nat32 kanji) (s := flag special) hm
    (hlen.trans_lt (by decide)) hp
  obtain ⟨o, tail, ho⟩ := @evals_finish mem (nat32 p) (nat32 bytes.length) _ (nat32 i') _ x' y' _
    special (nat32_add _ kanji) hk
  have sent := @evals_sentinel_next mem p bytes (nat32 kanji) (flag special) hlen
  have body : Costs (execs (link mem helpers) mem analyze.body
      (frame (nat32 p) (nat32 bytes.length) (nat32 kanji) (flag special) 0 0 0 0)) _ o :=
    costs_append (costs_append (costs_of_evals sent) (costs_singleton scan)) (costs_of_evals tail)
  have call := @costs_enter (link mem helpers) mem _ _ analyze
    (args (nat32 p) (nat32 bytes.length) (nat32 kanji) (flag special)) body
  rw [ho] at call
  convert call using 1
  omega

/-- A call on a longer message ends at the sentinel. -/
theorem costs_analyze_sentinel (hlen : 32768 < bytes.length) (hlt : bytes.length < 2 ^ 31) :
    Costs (analyze.enter (link mem helpers) mem (args (nat32 p) (nat32 bytes.length) k s)) 6
      (.ok [.i64 ActionProposal.suspiciousInput.encodeWire]) := by
  have hgt : (32768 : BitVec 32).slt (nat32 bytes.length) = true := by
    rw [show (32768 : BitVec 32) = nat32 32768 from rfl, nat32_slt (by decide) hlt]
    exact decide_eq_true hlen
  have stop : evals (known mem) mem [i64Const 17179869184, ret]
      (frame (nat32 p) (nat32 bytes.length) k s 0 0 0 0) =
      some (.ret ⟨(frame (nat32 p) (nat32 bytes.length) k s 0 0 0 0).locals,
        [.i64 17179869184]⟩, 1) := by
    simp
  have sent : evals (known mem) mem sentinel
      (frame (nat32 p) (nat32 bytes.length) k s 0 0 0 0) =
      some (.ret ⟨(frame (nat32 p) (nat32 bytes.length) k s 0 0 0 0).locals,
        [.i64 17179869184]⟩, 5) := by
    simp only [sentinel, evals_localGet, len, List.getElem?_cons_succ, List.getElem?_cons_zero,
      evals_i32Const, evals_i32Bin, BinOp.apply, hgt]
    rw [evals_if_ret (by decide) stop]
    rfl
  have body : Costs (execs (link mem helpers) mem analyze.body
      (frame (nat32 p) (nat32 bytes.length) k s 0 0 0 0)) _ _ :=
    costs_append_ret (costs_append_ret (costs_of_evals sent))
  exact @costs_enter (link mem helpers) mem _ _ analyze
    (args (nat32 p) (nat32 bytes.length) k s) body

end Call

/-- A call on the bytes of a text: its result and its exact fuel. -/
theorem costs_analyze {mem : Memory} {p kanji : ℕ} {content : Text} (special : Bool)
    (hm : Holds mem p (utf8 content)) (hlen : utf8Len content ≤ 32768)
    (hp : p + utf8Len content < 2 ^ 32)
    (hk : countOoSequences content + kanji < 2 ^ 32) :
    Costs (analyze.enter (link mem helpers) mem
        (args (nat32 p) (nat32 (utf8Len content)) (nat32 kanji) (flag special)))
      (guestFuel content kanji special)
      (.ok [.i64 (guestProposal (readTotal (countOoSequences content + kanji))
        special).encodeWire]) := by
  have h := @costs_analyze_bytes mem p (utf8 content) kanji special hm hlen hp
    (by rwa [byteSteps_utf8, scanHits_textSteps])
  rwa [byteSteps_utf8, scanHits_textSteps] at h

end OoBot.Guest
