import Mathlib.Algebra.Order.Field.Rat
import Mathlib.Data.Rat.Cast.Order
import Mathlib.Tactic.Positivity

/-!
# Arithmetic on `f64`

`F64 F` names the operations on double-precision numbers that a program uses, so that its model does
not depend on how they round.  `LawfulF64 F` collects facts about the operations that hold in
IEEE 754, with its infinities and its NaN; they say nothing about the exact value of a rounded
result.  The rationals, which never round, are an instance.
-/

/-- Operations on `f64`. -/
class F64 (F : Type) where
  /-- `n as f64`. -/
  ofNat : ℕ → F
  /-- The decimal literal `0.1`. -/
  tenth : F
  /-- `Duration::as_secs_f64` for a duration in nanoseconds. -/
  ofNanos : ℕ → F
  add : F → F → F
  sub : F → F → F
  mul : F → F → F
  max : F → F → F
  min : F → F → F
  /-- `a <= b`. -/
  le : F → F → Bool

/-- Facts about the operations that hold of IEEE 754 numbers. -/
class LawfulF64 (F : Type) [F64 F] : Prop where
  le_trans : ∀ {a b c : F}, F64.le a b → F64.le b c → F64.le a c
  /-- What compares is not a NaN. -/
  le_self : ∀ {a b : F}, F64.le a b → F64.le a a
  ofNat_le : ∀ {m n : ℕ}, m ≤ n → F64.le (F64.ofNat m : F) (F64.ofNat n)
  tenth_le_one : F64.le (F64.tenth : F) (F64.ofNat 1)
  ofNanos_nonneg : ∀ n, F64.le (F64.ofNat 0 : F) (F64.ofNanos n)
  le_max_left : ∀ {a b : F}, F64.le a a → F64.le a (F64.max a b)
  max_le : ∀ {a b c : F}, F64.le a c → F64.le b c → F64.le (F64.max a b) c
  le_min : ∀ {a b c : F}, F64.le a b → F64.le a c → F64.le a (F64.min b c)
  /-- Neither operand is a NaN or `-∞`. -/
  le_add : ∀ {a b : F}, F64.le (F64.ofNat 0) a → F64.le (F64.ofNat 0) b → F64.le a (F64.add a b)
  /-- The second factor is neither zero nor infinite. -/
  mul_nonneg : ∀ {a b : F} {n : ℕ}, F64.le (F64.ofNat 0) a → F64.le (F64.ofNat 1) b →
    F64.le b (F64.ofNat n) → F64.le (F64.ofNat 0) (F64.mul a b)

/-- Exact arithmetic. -/
instance : F64 ℚ where
  ofNat n := n
  tenth := 1 / 10
  ofNanos n := n / 1000000000
  add a b := a + b
  sub a b := a - b
  mul a b := a * b
  max a b := Max.max a b
  min a b := Min.min a b
  le a b := decide (a ≤ b)

instance : LawfulF64 ℚ where
  le_trans := by
    intro a b c h h'
    simp only [F64.le, decide_eq_true_eq] at *
    exact h.trans h'
  le_self _ := by simp [F64.le]
  ofNat_le h := by simpa [F64.le, F64.ofNat] using h
  tenth_le_one := by decide +kernel
  ofNanos_nonneg n := by
    simp only [F64.le, F64.ofNat, F64.ofNanos, decide_eq_true_eq, Nat.cast_zero]
    positivity
  le_max_left _ := by simp [F64.le, F64.max]
  max_le h h' := by
    simp only [F64.le, F64.max, decide_eq_true_eq] at *
    exact max_le h h'
  le_min h h' := by
    simp only [F64.le, F64.min, decide_eq_true_eq] at *
    exact le_min h h'
  le_add _ h' := by
    simp only [F64.le, F64.add, F64.ofNat, decide_eq_true_eq, Nat.cast_zero] at *
    exact le_add_of_nonneg_right h'
  mul_nonneg h h' _ := by
    simp only [F64.le, F64.mul, F64.ofNat, decide_eq_true_eq, Nat.cast_zero, Nat.cast_one] at *
    exact mul_nonneg h (le_trans zero_le_one h')

/-- Facts about counting down by ones that hold of IEEE 754 numbers: up to `2 ^ 32` the difference to
the next smaller whole number is not rounded away. -/
class CountingF64 (F : Type) [F64 F] : Prop extends LawfulF64 F where
  ofNanos_zero : F64.le (F64.ofNanos 0 : F) (F64.ofNat 0)
  min_le_right : ∀ {a b : F}, F64.le b b → F64.le (F64.min a b) b
  sub_one_le : ∀ {a : F}, F64.le (F64.ofNat 1) a → F64.le (F64.sub a (F64.ofNat 1)) a
  sub_one_ne : ∀ {a : F}, F64.le (F64.ofNat 1) a → F64.le a (F64.ofNat (2 ^ 32)) →
    F64.sub a (F64.ofNat 1) ≠ a

instance : CountingF64 ℚ where
  ofNanos_zero := by decide +kernel
  min_le_right _ := by simp [F64.le, F64.min]
  sub_one_le _ := by simp [F64.le, F64.sub, F64.ofNat]
  sub_one_ne _ _ := by simp [F64.sub, F64.ofNat]
