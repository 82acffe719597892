import Mathlib.Data.List.Basic
import Mathlib.Logic.Function.Basic
import Mathlib.Tactic.Common

/-!
# Encodings that delimit themselves

An encoding delimits itself, before what meets `Stop`, if two encodings with such things behind them are
the same list only if they encode the same and the same is behind them (`Delimits`).

* What can be read back delimits itself (`of_read`), also with the same list before all encodings
  (`front`).
* The encodings of the entries of a list, one after the other and with an end that no entry starts with,
  delimit themselves (`body`).
-/

namespace Delimited

variable {σ α : Type*} {Stop : List σ → Prop} {enc : α → List σ}

/-- Two encodings with something behind them are the same list only if both parts are the same. -/
def Delimits (Stop : List σ → Prop) (enc : α → List σ) : Prop :=
  ∀ ⦃a b : α⦄ ⦃r r' : List σ⦄, Stop r → Stop r' → enc a ++ r = enc b ++ r' → a = b ∧ r = r'

/-- Anything may be behind it. -/
def Any : List σ → Prop := fun _ => True

namespace Delimits

/-- With nothing behind them, encodings of different values differ. -/
theorem injective (h : Delimits Stop enc) (hnil : Stop []) : Function.Injective enc := by
  intro a b hab
  exact (h hnil hnil (congrArg (· ++ []) hab)).1

/-- What can be read back delimits itself. -/
theorem of_read {read : List σ → Option (α × List σ)}
    (h : ∀ a r, Stop r → read (enc a ++ r) = some (a, r)) : Delimits Stop enc := by
  intro a b r r' hr hr' heq
  have hread : some (a, r) = some (b, r') := by rw [← h a r hr, ← h b r' hr', heq]
  exact Prod.mk.inj (Option.some.inj hread)

/-- The same list may be before all encodings. -/
theorem front (h : Delimits Stop enc) (l : List σ) : Delimits Stop (fun a => l ++ enc a) := by
  intro a b r r' hr hr' heq
  simp only [List.append_assoc] at heq
  exact h hr hr' (List.append_cancel_left heq)

/-- The entries of a list, and an end that no entry starts with. -/
theorem body (h : Delimits Stop enc) {stop : σ} (hhead : ∀ a, ∃ x xs, enc a = x :: xs ∧ x ≠ stop)
    (hend : ∀ r, Stop (stop :: r)) (hnext : ∀ a r, Stop (enc a ++ r)) :
    Delimits Any (fun l : List α => l.flatMap enc ++ [stop]) := by
  -- an entry is not the end
  have hne (a : α) (r r' : List σ) : stop :: r ≠ enc a ++ r' := by
    obtain ⟨x, xs, hcons, hx⟩ := hhead a
    rw [hcons]
    intro heq
    exact hx (List.cons.inj heq).1.symm
  -- what is behind an entry stops it
  have hstops (l : List α) (r : List σ) : Stop (l.flatMap enc ++ stop :: r) := by
    cases l with
    | nil => exact hend r
    | cons a l =>
      rw [List.flatMap_cons, List.append_assoc]
      exact hnext a _
  intro l l' r r' _ _ heq
  simp only [List.append_assoc, List.singleton_append] at heq
  induction l generalizing l' with
  | nil =>
    cases l' with
    | nil => exact ⟨rfl, (List.cons.inj heq).2⟩
    | cons b l' =>
      rw [List.flatMap_cons, List.append_assoc] at heq
      exact absurd heq (hne b _ _)
  | cons a l ih =>
    cases l' with
    | nil =>
      rw [List.flatMap_cons, List.append_assoc] at heq
      exact absurd heq.symm (hne a _ _)
    | cons b l' =>
      rw [List.flatMap_cons, List.append_assoc, List.flatMap_cons, List.append_assoc] at heq
      obtain ⟨rfl, hrest⟩ := h (hstops l r) (hstops l' r') heq
      obtain ⟨rfl, hr⟩ := ih hrest
      exact ⟨rfl, hr⟩

end Delimits

end Delimited
