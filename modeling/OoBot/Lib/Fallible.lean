import Mathlib.Tactic.Common

/-!
# Programs that change a state and may fail

`EStateM ε σ α` is a program that changes a state, and returns a value or fails.  A failure keeps what
was changed before it.

* A sequence returns what its last part returns, if every part goes through (`bind_ok_iff`, and
  `except_bind_ok_iff` for `Except ε α`, which changes no state).
* A program may fail and leave the state as it was (`FailsClean`), or go through in every state
  (`Total`).
* What no part of a program changes is the same after it, however it ends (`Keeps`); what holds
  before each part holds after it (`Leaves`), or becomes something else at one of them (`Brings`).
-/

universe u v

namespace Fallible

variable {ε ε' σ α β : Type u} {γ : Type v}

/-- The state in which a program ends. -/
def after : EStateM.Result ε σ α → σ
  | .ok _ s => s
  | .error _ s => s

/-- A step that changes the state, or fails and leaves it. -/
def attempt (f : σ → Except ε σ) : EStateM ε σ PUnit := fun s =>
  match f s with
  | .ok s' => .ok ⟨⟩ s'
  | .error e => .error e s

/-- Run `final` on the state in which a program ends. -/
def ending (final : σ → σ) (m : EStateM ε σ α) : EStateM ε σ α := fun s =>
  match m s with
  | .ok a s' => .ok a (final s')
  | .error e s' => .error e (final s')

/-! ### Computations that may fail -/

section Except

variable {r : Except ε α} {a : α} {b : β} {e : ε}

/-- `Option::ok_or`. -/
def okOr (o : Option α) (e : ε) : Except ε α :=
  match o with
  | some a => .ok a
  | none => .error e

/-- Fail with `e` unless `p` holds. -/
def check (p : Prop) [Decidable p] (e : ε) : Except ε PUnit := if p then .ok ⟨⟩ else .error e

theorem except_bind_ok_iff {k : α → Except ε β} :
    (r >>= k) = .ok b ↔ ∃ a, r = .ok a ∧ k a = .ok b := by
  show Except.bind r k = .ok b ↔ _
  unfold Except.bind
  cases r with
  | ok a => simp
  | error e => simp

theorem mapError_ok_iff {f : ε → ε'} : r.mapError f = .ok a ↔ r = .ok a := by
  unfold Except.mapError
  cases r with
  | ok x => simp
  | error e => simp

theorem okOr_ok_iff {o : Option α} : okOr o e = .ok a ↔ o = some a := by
  unfold okOr
  cases o with
  | some x => simp
  | none => simp

theorem except_bind_error_iff {k : α → Except ε β} :
    (∃ e, (r >>= k) = .error e) ↔ (∃ e, r = .error e) ∨ ∃ a, r = .ok a ∧ ∃ e, k a = .error e := by
  show (∃ e, Except.bind r k = .error e) ↔ _
  unfold Except.bind
  cases r with
  | ok a => simp
  | error e => simp

theorem mapError_error_iff {f : ε → ε'} :
    (∃ e, r.mapError f = .error e) ↔ ∃ e, r = .error e := by
  cases r with
  | ok a => simp [Except.mapError]
  | error e => simp [Except.mapError]

theorem okOr_error_iff {o : Option α} : (∃ e', okOr o e = .error e') ↔ o = none := by
  cases o with
  | none => exact iff_of_true ⟨e, rfl⟩ rfl
  | some a => exact iff_of_false nofun nofun

theorem check_ok_iff {p : Prop} [Decidable p] {u : PUnit} : check p e = .ok u ↔ p := by
  unfold check
  split_ifs with h
  · exact iff_of_true rfl h
  · exact iff_of_false (fun h => by cases h) h

end Except

/-! ### Programs that go through -/

section Ok

variable {m : EStateM ε σ α} {s s' : σ} {a x : α} {b : β}

theorem pure_ok_iff : (pure x : EStateM ε σ α) s = .ok a s' ↔ a = x ∧ s' = s := by
  show EStateM.Result.ok x s = .ok a s' ↔ _
  rw [EStateM.Result.ok.injEq]
  exact and_congr eq_comm eq_comm

theorem throw_ne_ok {e : ε} : (throw e : EStateM ε σ α) s ≠ .ok a s' := by
  intro h
  cases h

theorem bind_ok_iff {k : α → EStateM ε σ β} :
    (m >>= k) s = .ok b s' ↔ ∃ a t, m s = .ok a t ∧ k a t = .ok b s' := by
  show EStateM.bind m k s = .ok b s' ↔ _
  unfold EStateM.bind
  cases m s with
  | ok a t => simp
  | error e t => simp

theorem seq_ok_iff {m : EStateM ε σ PUnit} {k : PUnit → EStateM ε σ β} :
    (m >>= k) s = .ok b s' ↔ ∃ t, m s = .ok ⟨⟩ t ∧ k ⟨⟩ t = .ok b s' :=
  bind_ok_iff.trans ⟨fun ⟨_, t, h⟩ => ⟨t, h⟩, fun ⟨t, h⟩ => ⟨⟨⟩, t, h⟩⟩

/-- After a part that goes through, a sequence is what follows. -/
theorem bind_of_ok {k : α → EStateM ε σ β} {t : σ} (h : m s = .ok a t) : (m >>= k) s = k a t := by
  show EStateM.bind m k s = _
  unfold EStateM.bind
  rw [h]

/-- What reads the state goes on with it. -/
theorem get_bind (k : σ → EStateM ε σ β) (s : σ) : (get >>= k) s = k s s := rfl

theorem bind_error_iff {k : α → EStateM ε σ β} {e : ε} :
    (m >>= k) s = .error e s' ↔
      m s = .error e s' ∨ ∃ a t, m s = .ok a t ∧ k a t = .error e s' := by
  show EStateM.bind m k s = .error e s' ↔ _
  unfold EStateM.bind
  cases m s with
  | ok a t => simp
  | error e t => simp

theorem ofExcept_ok_iff {r : Except ε α} :
    (ofExcept r : EStateM ε σ α) s = .ok a s' ↔ r = .ok a ∧ s' = s := by
  cases r with
  | ok x => exact pure_ok_iff.trans (by simp [eq_comm])
  | error e => exact iff_of_false throw_ne_ok (by simp)

theorem ofExcept_error_iff {r : Except ε α} {e : ε} :
    (ofExcept r : EStateM ε σ α) s = .error e s' ↔ r = .error e ∧ s' = s := by
  cases r with
  | ok x =>
    refine iff_of_false (fun h => ?_) (by simp)
    cases h
  | error e' =>
    show EStateM.Result.error e' s = .error e s' ↔ _
    simp [eq_comm]

theorem adaptExcept_ok_iff {f : ε → ε'} :
    EStateM.adaptExcept f m s = .ok a s' ↔ m s = .ok a s' := by
  unfold EStateM.adaptExcept
  cases m s with
  | ok x t => simp
  | error e t => simp

theorem adaptExcept_error_iff {f : ε → ε'} {e' : ε'} :
    EStateM.adaptExcept f m s = .error e' s' ↔ ∃ e, f e = e' ∧ m s = .error e s' := by
  unfold EStateM.adaptExcept
  cases m s with
  | ok x t => simp
  | error e t => simp

theorem attempt_ok_iff {f : σ → Except ε σ} : attempt f s = .ok ⟨⟩ s' ↔ f s = .ok s' := by
  unfold attempt
  cases f s with
  | ok t => simp
  | error e => simp

/-- A step that fails leaves the state. -/
theorem attempt_error {f : σ → Except ε σ} {e : ε} (h : attempt f s = .error e s') : s' = s := by
  unfold attempt at h
  cases hf : f s with
  | ok t =>
    rw [hf] at h
    cases h
  | error e' =>
    rw [hf] at h
    cases h
    rfl

theorem ending_of_ok {final : σ → σ} {k : α → EStateM ε σ β} {t : σ} (h : m s = .ok a t) :
    ending final (m >>= k) s = ending final (k a) t := by
  unfold ending
  rw [bind_of_ok h]

theorem ending_ok_iff {final : σ → σ} :
    ending final m s = .ok a s' ↔ ∃ t, m s = .ok a t ∧ s' = final t := by
  unfold ending
  cases m s with
  | ok x t => simp [eq_comm]
  | error e t => simp

end Ok

/-! ### Failing without a trace -/

section FailsClean

variable {m : EStateM ε σ α} {k : α → EStateM ε σ β} {s : σ} {a : α}

/-- The program fails and leaves the state as it was. -/
def FailsClean (m : EStateM ε σ α) (s : σ) : Prop := ∃ e, m s = .error e s

theorem FailsClean.bind (h : FailsClean m s) : FailsClean (m >>= k) s := by
  obtain ⟨e, he⟩ := h
  exact ⟨e, bind_error_iff.2 (.inl he)⟩

/-- A sequence whose first part goes through and changes nothing fails so if its rest does. -/
theorem FailsClean.bind_of_ok (hm : m s = .ok a s) (h : FailsClean (k a) s) :
    FailsClean (m >>= k) s := by
  obtain ⟨e, he⟩ := h
  exact ⟨e, bind_error_iff.2 (.inr ⟨a, s, hm, he⟩)⟩

theorem failsClean_ofExcept {r : Except ε α} (h : ¬ ∃ a, r = .ok a) :
    FailsClean (ofExcept r : EStateM ε σ α) s := by
  cases r with
  | ok a => exact absurd ⟨a, rfl⟩ h
  | error e => exact ⟨e, rfl⟩

end FailsClean

/-! ### Programs that go through -/

/-- The program never fails. -/
def Total (m : EStateM ε σ α) : Prop := ∀ s, ∃ a t, m s = .ok a t

namespace Total

variable {m : EStateM ε σ α}

theorem pure (a : α) : Total (pure a : EStateM ε σ α) := fun s => ⟨a, s, rfl⟩

theorem get : Total (get : EStateM ε σ σ) := fun s => ⟨s, s, rfl⟩

theorem modify (f : σ → σ) : Total (modify f : EStateM ε σ PUnit) := fun s => ⟨⟨⟩, f s, rfl⟩

theorem bind {k : α → EStateM ε σ β} (hm : Total m) (hk : ∀ a, Total (k a)) : Total (m >>= k) := by
  intro s
  obtain ⟨a, t, ht⟩ := hm s
  obtain ⟨b, u, hu⟩ := hk a t
  exact ⟨b, u, (bind_of_ok ht).trans hu⟩

end Total

/-! ### What a program does not change -/

/-- However the program ends, `view` shows what it showed before. -/
def Keeps (view : σ → γ) (m : EStateM ε σ α) : Prop := ∀ s, view (after (m s)) = view s

namespace Keeps

variable {view : σ → γ} {m : EStateM ε σ α}

theorem pure (a : α) : Keeps view (pure a : EStateM ε σ α) := fun _ => rfl

theorem throw (e : ε) : Keeps view (throw e : EStateM ε σ α) := fun _ => rfl

theorem get : Keeps view (get : EStateM ε σ σ) := fun _ => rfl

theorem modify {f : σ → σ} (h : ∀ s, view (f s) = view s) :
    Keeps view (modify f : EStateM ε σ PUnit) := h

theorem ofExcept (r : Except ε α) : Keeps view (ofExcept r : EStateM ε σ α) := by
  cases r with
  | ok a => exact Keeps.pure a
  | error e => exact Keeps.throw e

theorem bind {k : α → EStateM ε σ β} (hm : Keeps view m) (hk : ∀ a, Keeps view (k a)) :
    Keeps view (m >>= k) := by
  intro s
  have hs := hm s
  show view (after (EStateM.bind m k s)) = _
  unfold EStateM.bind
  cases h : m s with
  | ok a t =>
    rw [h] at hs
    exact (hk a t).trans hs
  | error e t =>
    rw [h] at hs
    exact hs

theorem adaptExcept {f : ε → ε'} (hm : Keeps view m) : Keeps view (EStateM.adaptExcept f m) := by
  intro s
  have hs := hm s
  unfold EStateM.adaptExcept
  cases h : m s with
  | ok a t =>
    rw [h] at hs
    exact hs
  | error e t =>
    rw [h] at hs
    exact hs

theorem attempt {f : σ → Except ε σ} (h : ∀ s s', f s = .ok s' → view s' = view s) :
    Keeps view (attempt f) := by
  intro s
  unfold Fallible.attempt
  cases hf : f s with
  | ok s' => exact h s s' hf
  | error e => rfl

/-- A view is kept if every part of it is. -/
theorem pi {ι : Type v} {δ : ι → Type v} {view : σ → ∀ i, δ i}
    (h : ∀ i, Keeps (fun s => view s i) m) : Keeps view m := fun s => funext fun i => h i s

end Keeps

/-! ### What holds after a program -/

/-- However the program ends, `P` holds if it held before. -/
def Leaves (P : σ → Prop) (m : EStateM ε σ α) : Prop := ∀ s, P s → P (after (m s))

namespace Leaves

variable {P : σ → Prop} {m : EStateM ε σ α}

theorem pure (a : α) : Leaves P (pure a : EStateM ε σ α) := fun _ h => h

theorem throw (e : ε) : Leaves P (throw e : EStateM ε σ α) := fun _ h => h

theorem get : Leaves P (get : EStateM ε σ σ) := fun _ h => h

theorem modify {f : σ → σ} (h : ∀ s, P s → P (f s)) : Leaves P (modify f : EStateM ε σ PUnit) := h

/-- A view that is kept keeps its value. -/
theorem of_keeps {view : σ → γ} {v : γ} (h : Keeps view m) : Leaves (fun s => view s = v) m :=
  fun s hs => (h s).trans hs

theorem ofExcept (r : Except ε α) : Leaves P (ofExcept r : EStateM ε σ α) := by
  cases r with
  | ok a => exact Leaves.pure a
  | error e => exact Leaves.throw e

theorem bind {k : α → EStateM ε σ β} (hm : Leaves P m) (hk : ∀ a, Leaves P (k a)) :
    Leaves P (m >>= k) := by
  intro s hs
  have hafter := hm s hs
  show P (after (EStateM.bind m k s))
  unfold EStateM.bind
  cases h : m s with
  | ok a t =>
    rw [h] at hafter
    exact hk a t hafter
  | error e t =>
    rw [h] at hafter
    exact hafter

end Leaves

/-- However the program ends, `Q` holds if `P` held before. -/
def Brings (P Q : σ → Prop) (m : EStateM ε σ α) : Prop := ∀ s, P s → Q (after (m s))

namespace Brings

variable {P Q R : σ → Prop} {m : EStateM ε σ α} {k : α → EStateM ε σ β}

theorem of_leaves (hm : Leaves P m) (hPQ : ∀ s, P s → Q s) : Brings P Q m := fun s hs =>
  hPQ _ (hm s hs)

/-- A sequence may fail in its first part, so what its rest relies on gives the end too. -/
theorem bind (hm : Leaves P m) (hPQ : ∀ s, P s → Q s) (hk : ∀ a, Brings P Q (k a)) :
    Brings P Q (m >>= k) := by
  intro s hs
  have hafter := hm s hs
  show Q (after (EStateM.bind m k s))
  unfold EStateM.bind
  cases h : m s with
  | ok a t =>
    rw [h] at hafter
    exact hk a t hafter
  | error e t =>
    rw [h] at hafter
    exact hPQ t hafter

/-- What follows leaves what was brought. -/
theorem before (hm : Brings P Q m) (hk : ∀ a, Leaves Q (k a)) : Brings P Q (m >>= k) := by
  intro s hs
  have hafter := hm s hs
  show Q (after (EStateM.bind m k s))
  unfold EStateM.bind
  cases h : m s with
  | ok a t =>
    rw [h] at hafter
    exact hk a t hafter
  | error e t =>
    rw [h] at hafter
    exact hafter

end Brings

/-! ### Programs that fail -/

/-- The program fails, and the view is then `v`. -/
def FailsAt (view : σ → γ) (v : γ) (m : EStateM ε σ α) (s : σ) : Prop :=
  ∃ e t, m s = .error e t ∧ view t = v

namespace FailsAt

variable {view : σ → γ} {v : γ} {m : EStateM ε σ α} {s : σ}

theorem throw (e : ε) (h : view s = v) : FailsAt view v (throw e : EStateM ε σ α) s := ⟨e, s, rfl, h⟩

/-- A program that goes through does not fail. -/
theorem false_of_ok {a : α} {t : σ} (h : FailsAt view v m s) (hok : m s = .ok a t) : False := by
  obtain ⟨e, t', herr, -⟩ := h
  rw [hok] at herr
  cases herr

/-- A sequence fails if it fails after every first part that goes through. -/
theorem bind {k : α → EStateM ε σ β} (hm : Keeps view m) (h : view s = v)
    (hk : ∀ a t, m s = .ok a t → view t = v → FailsAt view v (k a) t) :
    FailsAt view v (m >>= k) s := by
  have hs := hm s
  cases hresult : m s with
  | ok a t =>
    rw [hresult] at hs
    obtain ⟨e, t', hfails, hv⟩ := hk a t hresult (hs.trans h)
    exact ⟨e, t', (bind_of_ok hresult).trans hfails, hv⟩
  | error e t =>
    rw [hresult] at hs
    exact ⟨e, t, bind_error_iff.2 (.inl hresult), hs.trans h⟩

theorem ending {final : σ → σ} (h : FailsAt (fun t => view (final t)) v m s) :
    FailsAt view v (ending final m) s := by
  obtain ⟨e, t, hfails, hv⟩ := h
  refine ⟨e, final t, ?_, hv⟩
  unfold Fallible.ending
  rw [hfails]

end FailsAt

end Fallible
