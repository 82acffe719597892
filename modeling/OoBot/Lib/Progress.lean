import Mathlib.Order.Basic
import Mathlib.Tactic.Common

/-!
# Systems whose steps may be disabled

`step s a` is the state after the action `a`, where `a` can be taken in `s`.

* What every step keeps holds along every run (`Run.inv`), and what every step of a kind keeps along every
  run of such steps (`Run.inv_of`).
* Where a measure goes down with every step of a kind, no run of such steps is longer than the measure
  (`Run.length_le`), and from every state some run of such steps leads to one in which none of them can
  be taken (`exists_stuck`).  Together with what holds of the states without a further step, this is what
  such a system comes to whatever order it takes (`comes_to`).
-/

namespace Progress

variable {S A : Type*} {step : S → A → Option S} {P : A → Prop} {s s' s'' : S} {as bs : List A}

/-- A run, with the actions that it takes. -/
inductive Run (step : S → A → Option S) : S → List A → S → Prop
  | nil (s : S) : Run step s [] s
  | cons {s s' s'' : S} {a : A} {as : List A} (head : step s a = some s') (rest : Run step s' as s'') :
      Run step s (a :: as) s''

theorem Run.append (h : Run step s as s') (h' : Run step s' bs s'') : Run step s (as ++ bs) s'' := by
  induction h with
  | nil s => exact h'
  | cons head rest ih => exact .cons head (ih h')

/-- What every step of a kind keeps holds along every run of such steps. -/
theorem Run.inv_of {I : S → Prop} (hstep : ∀ s a s', P a → step s a = some s' → I s → I s')
    (h : Run step s as s') (hP : ∀ a ∈ as, P a) (hI : I s) : I s' := by
  induction h with
  | nil s => exact hI
  | cons head rest ih =>
    exact ih (fun a ha => hP a (List.mem_cons_of_mem _ ha))
      (hstep _ _ _ (hP _ (List.mem_cons_self ..)) head hI)

/-- What every step keeps holds along every run. -/
theorem Run.inv {I : S → Prop} (hstep : ∀ s a s', step s a = some s' → I s → I s')
    (h : Run step s as s') (hI : I s) : I s' :=
  h.inv_of (P := fun _ => True) (fun s a s' _ => hstep s a s') (fun _ _ => trivial) hI

/-- The state after the actions, where all of them can be taken. -/
def exec (step : S → A → Option S) : S → List A → Option S
  | s, [] => some s
  | s, a :: as => (step s a).bind fun s' => exec step s' as

theorem run_of_exec (h : exec step s as = some s') : Run step s as s' := by
  induction as generalizing s with
  | nil =>
    cases h
    exact .nil _
  | cons a as ih =>
    obtain ⟨s₁, hs₁, hrest⟩ := Option.bind_eq_some_iff.1 h
    exact .cons hs₁ (ih hrest)

/-- No action of the kind can be taken. -/
def Stuck (step : S → A → Option S) (P : A → Prop) (s : S) : Prop := ∀ a, P a → step s a = none

section Measure

variable {μ : S → ℕ} (hμ : ∀ s a s', P a → step s a = some s' → μ s' < μ s)

include hμ

/-- The measure pays for every step. -/
theorem Run.length_le (h : Run step s as s') (hP : ∀ a ∈ as, P a) : as.length + μ s' ≤ μ s := by
  induction h with
  | nil s => simp
  | cons head rest ih =>
    have hlt := hμ _ _ _ (hP _ (List.mem_cons_self ..)) head
    have hrest := ih fun a ha => hP a (List.mem_cons_of_mem _ ha)
    rw [List.length_cons]
    omega

/-- Some run of such steps cannot be continued. -/
theorem exists_stuck (s : S) :
    ∃ as s', Run step s as s' ∧ (∀ a ∈ as, P a) ∧ Stuck step P s' := by
  induction hn : μ s using Nat.strongRecOn generalizing s with
  | ind n ih =>
    subst hn
    by_cases hstuck : Stuck step P s
    · exact ⟨[], s, .nil s, by simp, hstuck⟩
    · -- take a step that is possible, and go on from there
      unfold Stuck at hstuck
      push Not at hstuck
      obtain ⟨a, ha, hne⟩ := hstuck
      obtain ⟨s₁, hs₁⟩ := Option.ne_none_iff_exists'.1 hne
      obtain ⟨as, s', hrun, hP, hend⟩ := ih (μ s₁) (hμ s a s₁ ha hs₁) s₁ rfl
      refine ⟨a :: as, s', .cons hs₁ hrun, ?_, hend⟩
      rintro b hb
      rcases List.mem_cons.1 hb with rfl | hb
      · exact ha
      · exact hP b hb

/-- **What the steps of a kind come to**: a state that keeps the invariant and cannot go on is a `Q`;
so every run of such steps from a state with the invariant is bounded, and leads on to a `Q`. -/
theorem comes_to {I Q : S → Prop} (hstep : ∀ s a s', step s a = some s' → I s → I s')
    (hQ : ∀ s, I s → Stuck step P s → Q s) (hI : I s) (h : Run step s as s') (hP : ∀ a ∈ as, P a) :
    as.length ≤ μ s ∧ ∃ bs t, Run step s' bs t ∧ (∀ a ∈ bs, P a) ∧ Q t := by
  constructor
  · exact Nat.le_trans (Nat.le_add_right _ _) (h.length_le hμ hP)
  · obtain ⟨bs, t, hrun, hbs, hstuck⟩ := exists_stuck hμ s'
    exact ⟨bs, t, hrun, hbs, hQ t (hrun.inv hstep (h.inv hstep hI)) hstuck⟩

end Measure

end Progress
