import Mathlib.Tactic.Common

/-!
# Streams that arrive in pieces

A stream arrives in pieces, none of them empty, until it is over or fails.  Reading up to a delimiter gives
what is before the first one, with it, in whatever pieces it arrived (`readUntil_of_mem`).  Without a
delimiter it gives all there is, once the stream is over (`readUntil_of_not_mem`).
-/

namespace Arrivals

variable {ε σ : Type}

/-- What arrives of a stream. -/
inductive Arrival (ε σ : Type)
  | ended
  | failed (e : ε)
  | piece (first : σ) (more : List σ) (rest : Arrival ε σ)

namespace Arrival

/-- All that arrives. -/
def all : Arrival ε σ → List σ
  | .ended => []
  | .failed _ => []
  | .piece first more rest => first :: more ++ rest.all

variable [DecidableEq σ]

/-- Read up to the first delimiter, and the delimiter. -/
def readUntil (stop : σ) : Arrival ε σ → Except ε (List σ)
  | .ended => .ok []
  | .failed e => .error e
  | .piece first more rest =>
      if stop ∈ first :: more then .ok ((first :: more).takeWhile (· ≠ stop) ++ [stop])
      else (rest.readUntil stop).map fun line => first :: more ++ line

variable {stop : σ} {l r : List σ} {arrival : Arrival ε σ}

theorem takeWhile_stop (hl : stop ∉ l) (r : List σ) : (l ++ stop :: r).takeWhile (· ≠ stop) = l := by
  rw [List.takeWhile_append_of_pos, List.takeWhile_cons_of_neg, List.append_nil]
  · simp
  · intro x hx
    rw [decide_eq_true_iff]
    rintro rfl
    exact hl hx

/-- What is before the first delimiter is read, in whatever pieces it arrives. -/
theorem readUntil_of_mem (hl : stop ∉ l) (h : arrival.all = l ++ stop :: r) :
    arrival.readUntil stop = .ok (l ++ [stop]) := by
  induction arrival generalizing l with
  | ended => exact absurd h.symm (by simp [all])
  | failed e => exact absurd h.symm (by simp [all])
  | piece first more rest ih =>
    unfold readUntil
    rcases List.append_eq_append_iff.1 h with ⟨m, rfl, hrest⟩ | ⟨m, hpiece, hm⟩
    · -- the delimiter comes in a later piece
      rw [List.mem_append, not_or] at hl
      rw [if_neg hl.1, ih hl.2 hrest]
      exact congrArg Except.ok (List.append_assoc _ _ _).symm
    · cases m with
      | nil =>
        rw [List.append_nil] at hpiece
        rw [hpiece, if_neg hl, ih (l := []) List.not_mem_nil hm.symm]
        rfl
      | cons x m =>
        obtain ⟨rfl, -⟩ := List.cons.inj hm
        rw [hpiece, if_pos (by simp), takeWhile_stop hl]

/-- Without a delimiter, all is read. -/
theorem readUntil_of_not_mem {line : List σ} (hstop : stop ∉ arrival.all)
    (h : arrival.readUntil stop = .ok line) : line = arrival.all := by
  induction arrival generalizing line with
  | ended =>
    cases h
    rfl
  | failed e => cases h
  | piece first more rest ih =>
    unfold readUntil at h
    rw [all, List.mem_append, not_or] at hstop
    rw [if_neg hstop.1] at h
    cases hrest : rest.readUntil stop with
    | error e =>
      rw [hrest] at h
      cases h
    | ok tail =>
      rw [hrest] at h
      cases h
      rw [ih hstop.2 hrest, all]

end Arrival

end Arrivals
