import Mathlib.Data.List.Chain
import Mathlib.Order.Basic
import Mathlib.Tactic.Common

/-!
# Runs of a deterministic system

A system takes a step for every operation; a run is a list of operations.

* An invariant that every step preserves holds after every run (`run_inv`).
* The trace of a run is what its operations show, each in the state before it.  Operations may carry
  instants; an invariant that speaks of the clock, of the trace so far and of the state, and that
  every step preserves whose instant is not before the clock, holds after every run at non-decreasing
  instants (`timed_inv`).
* The operations of a run may each meet a condition (`Each`): what an invariant gives at every step of
  such a run holds at all of them (`each_of_inv`).
* A second system, whose steps are a relation, may show the same operation by operation (`Shows`): a
  relation between the states that every step keeps carries over to whole runs (`shows_of_sim`), and two
  runs of one system between whose states such a relation holds show the same (`trace_congr`).
* A map of the states and of the operations that every step respects takes runs to runs (`run_map`), and
  where it leaves what an operation shows it leaves what a run shows (`trace_map_ops`).
* A part of a system may take steps of its own when the system takes some of its steps: the part then runs
  on the operations that the run hands to it, and what holds of all runs of the part holds there
  (`run_part`, `trace_part`).
-/

namespace Runs

variable {S O : Type*} {step : S → O → S}

/-- The state after a run. -/
def run (step : S → O → S) (s : S) (ops : List O) : S := ops.foldl step s

@[simp] theorem run_nil (s : S) : run step s [] = s := rfl

@[simp] theorem run_cons (s : S) (o : O) (ops : List O) :
    run step s (o :: ops) = run step (step s o) ops := rfl

@[simp] theorem run_append (s : S) (ops ops' : List O) :
    run step s (ops ++ ops') = run step (run step s ops) ops' := by
  simp [run]

/-- What every step preserves holds after every run. -/
theorem run_inv {I : S → Prop} (hstep : ∀ s o, I s → I (step s o)) {s : S} (h : I s) (ops : List O) :
    I (run step s ops) := by
  induction ops generalizing s with
  | nil => exact h
  | cons o ops ih => exact ih (hstep s o h)

/-- What no step changes is the same after every run. -/
theorem run_eq {β : Type*} {f : S → β} (hstep : ∀ s o, f (step s o) = f s) (s : S) (ops : List O) :
    f (run step s ops) = f s :=
  run_inv (I := fun t => f t = f s) (fun t o h => (hstep t o).trans h) rfl ops

/-! ### Traces -/

section Trace

variable {E : Type*} {obs : S → O → Option E}

/-- What the operations of a run show, each in the state before it. -/
def trace (step : S → O → S) (obs : S → O → Option E) (s : S) : List O → List E
  | [] => []
  | o :: ops => (obs s o).toList ++ trace step obs (step s o) ops

@[simp] theorem trace_nil (s : S) : trace step obs s [] = [] := rfl

@[simp] theorem trace_cons (s : S) (o : O) (ops : List O) :
    trace step obs s (o :: ops) = (obs s o).toList ++ trace step obs (step s o) ops := rfl

theorem trace_append (s : S) (ops ops' : List O) :
    trace step obs s (ops ++ ops') = trace step obs s ops ++ trace step obs (run step s ops) ops' := by
  induction ops generalizing s with
  | nil => rfl
  | cons o ops ih => rw [List.cons_append, trace_cons, ih, trace_cons, List.append_assoc, run_cons]

/-- What shows in a trace is what an operation of the run shows, in the state before it. -/
theorem mem_trace_iff {s : S} {ops : List O} {e : E} : e ∈ trace step obs s ops ↔
    ∃ before o after, ops = before ++ o :: after ∧ obs (run step s before) o = some e := by
  constructor
  · intro h
    induction ops generalizing s with
    | nil => cases h
    | cons o ops ih =>
      rw [trace_cons] at h
      rcases List.mem_append.1 h with h | h
      · exact ⟨[], o, ops, rfl, Option.mem_toList.1 h⟩
      · obtain ⟨before, o', after, rfl, hobs⟩ := ih h
        exact ⟨o :: before, o', after, rfl, hobs⟩
  · rintro ⟨before, o, after, rfl, hobs⟩
    rw [trace_append, trace_cons]
    exact List.mem_append_right _ (List.mem_append_left _ (Option.mem_toList.2 hobs))

/-- No operation shows more than once. -/
theorem length_trace_le (s : S) (ops : List O) : (trace step obs s ops).length ≤ ops.length := by
  induction ops generalizing s with
  | nil => exact Nat.le_refl 0
  | cons o ops ih =>
    have hone : (obs s o).toList.length ≤ 1 := by cases obs s o <;> simp
    rw [trace_cons, List.length_append, List.length_cons]
    have := ih (step s o)
    omega

/-- What shows of the operations alone does not depend on the states. -/
theorem trace_of_op (f : O → Option E) (s : S) (ops : List O) :
    trace step (fun _ => f) s ops = ops.filterMap f := by
  induction ops generalizing s with
  | nil => rfl
  | cons o ops ih =>
    rw [trace_cons, ih]
    cases h : f o with
    | none => simp [h]
    | some e => simp [h]

/-- Less may be shown of the same run. -/
theorem trace_map {E' : Type*} (f : E → E') (s : S) (ops : List O) :
    trace step (fun s o => (obs s o).map f) s ops = (trace step obs s ops).map f := by
  induction ops generalizing s with
  | nil => rfl
  | cons o ops ih =>
    rw [trace_cons, trace_cons, ih, List.map_append]
    cases obs s o <;> rfl

/-- Only a part of what shows may be looked at. -/
theorem trace_filterMap {E' : Type*} (f : E → Option E') (s : S) (ops : List O) :
    trace step (fun s o => (obs s o).bind f) s ops = (trace step obs s ops).filterMap f := by
  induction ops generalizing s with
  | nil => rfl
  | cons o ops ih =>
    rw [trace_cons, trace_cons, ih, List.filterMap_append]
    cases hobs : obs s o with
    | none => rfl
    | some e => cases hf : f e <;> simp [hf]

/-- What every step preserves of the trace so far and the state holds after every run. -/
theorem trace_inv {I : List E → S → Prop}
    (hstep : ∀ h s o, I h s → I (h ++ (obs s o).toList) (step s o)) {h : List E} {s : S}
    (hI : I h s) (ops : List O) : I (h ++ trace step obs s ops) (run step s ops) := by
  induction ops generalizing h s with
  | nil =>
    rw [trace_nil, List.append_nil]
    exact hI
  | cons o ops ih =>
    rw [trace_cons, ← List.append_assoc]
    exact ih (hstep h s o hI)

/-- The same for steps of the operations of the run only. -/
theorem trace_inv_mem {I : List E → S → Prop} {ops : List O}
    (hstep : ∀ h s, ∀ o ∈ ops, I h s → I (h ++ (obs s o).toList) (step s o)) {h : List E} {s : S}
    (hI : I h s) : I (h ++ trace step obs s ops) (run step s ops) := by
  induction ops generalizing h s with
  | nil =>
    rw [trace_nil, List.append_nil]
    exact hI
  | cons o ops ih =>
    rw [trace_cons, ← List.append_assoc]
    exact ih (fun h s o' ho' => hstep h s o' (List.mem_cons_of_mem o ho'))
      (hstep h s o List.mem_cons_self hI)

end Trace

/-! ### Clocks -/

section Clock

variable {T E : Type*} [Preorder T] {time : O → Option T} {obs : S → O → Option E}

/-- The operations with an instant come at non-decreasing instants, from `t` on. -/
def Clocked (time : O → Option T) (t : T) (ops : List O) : Prop :=
  List.IsChain (· ≤ ·) (t :: ops.filterMap time)

/-- The clock after an operation. -/
def clock (time : O → Option T) (t : T) (o : O) : T := (time o).getD t

theorem clocked_cons {t : T} {o : O} {ops : List O} :
    Clocked time t (o :: ops) ↔ t ≤ clock time t o ∧ Clocked time (clock time t o) ops := by
  unfold Clocked clock
  cases h : time o with
  | none => simp [h]
  | some t' => simp [h]

theorem clocked_concat {t : T} {ops : List O} {o : O} (h : Clocked time t (ops ++ [o])) :
    Clocked time t ops ∧ ops.foldl (clock time) t ≤ clock time (ops.foldl (clock time) t) o := by
  induction ops generalizing t with
  | nil => exact ⟨List.isChain_singleton t, (clocked_cons.1 h).1⟩
  | cons o' ops ih =>
    obtain ⟨hle, hrest⟩ := clocked_cons.1 h
    obtain ⟨hops, hlast⟩ := ih hrest
    exact ⟨clocked_cons.2 ⟨hle, hops⟩, hlast⟩

/-- What every step preserves whose instant is not before the clock holds after every run at
non-decreasing instants. -/
theorem timed_inv {I : T → List E → S → Prop}
    (hstep : ∀ t h s o, t ≤ clock time t o → I t h s →
      I (clock time t o) (h ++ (obs s o).toList) (step s o))
    {t : T} {h : List E} {s : S} {ops : List O} (hI : I t h s) (hops : Clocked time t ops) :
    I (ops.foldl (clock time) t) (h ++ trace step obs s ops) (run step s ops) := by
  induction ops generalizing t h s with
  | nil =>
    rw [trace_nil, List.append_nil]
    exact hI
  | cons o ops ih =>
    obtain ⟨hle, hrest⟩ := clocked_cons.1 hops
    rw [trace_cons, ← List.append_assoc]
    exact ih (hstep t h s o hle hI) hrest

end Clock

/-! ### Conditions on every step -/

section Each

variable {C G : S → O → Prop}

/-- Each operation of the run meets the condition, in the state before it. -/
def Each (step : S → O → S) (C : S → O → Prop) (s : S) : List O → Prop
  | [] => True
  | o :: ops => C s o ∧ Each step C (step s o) ops

theorem each_append {s : S} {ops ops' : List O} : Each step C s (ops ++ ops') ↔
    Each step C s ops ∧ Each step C (run step s ops) ops' := by
  induction ops generalizing s with
  | nil => exact ⟨fun h => ⟨trivial, h⟩, fun h => h.2⟩
  | cons o ops ih =>
    rw [List.cons_append, Each, Each, ih, and_assoc]
    rfl

theorem Each.mono (h : ∀ s o, C s o → G s o) {s : S} {ops : List O} (hops : Each step C s ops) :
    Each step G s ops := by
  induction ops generalizing s with
  | nil => trivial
  | cons o ops ih => exact ⟨h s o hops.1, ih hops.2⟩

/-- What an invariant gives at every step that meets the condition, and that such steps preserve. -/
theorem each_of_inv {I : S → Prop} (hstep : ∀ s o, I s → C s o → G s o ∧ I (step s o)) {s : S}
    (hI : I s) {ops : List O} (hops : Each step C s ops) : Each step G s ops := by
  induction ops generalizing s with
  | nil => trivial
  | cons o ops ih =>
    obtain ⟨hgood, hnext⟩ := hstep s o hI hops.1
    exact ⟨hgood, ih hnext hops.2⟩

end Each

/-! ### Two systems -/

section Simulation

variable {T E A : Type*} [Preorder T] {time : O → Option T} {obs : S → O → Option E}
  {next : A → O → Option E → A → Prop}

/-- A run of a system whose steps are a relation, with what its operations show. -/
inductive Shows (next : A → O → Option E → A → Prop) : A → List O → List E → A → Prop
  | nil (a : A) : Shows next a [] [] a
  | cons {a a' a'' : A} {o : O} {e : Option E} {ops : List O} {es : List E} (step : next a o e a')
      (rest : Shows next a' ops es a'') : Shows next a (o :: ops) (e.toList ++ es) a''

/-- **Forward simulation.**  A relation that every step keeps whose instant is not before the clock: the
second system has a run on the same operations that shows what the first one shows. -/
theorem shows_of_sim {R : T → A → S → Prop}
    (hstep : ∀ t a s o, t ≤ clock time t o → R t a s →
      ∃ a', next a o (obs s o) a' ∧ R (clock time t o) a' (step s o))
    {t : T} {a : A} {s : S} {ops : List O} (h : R t a s) (hops : Clocked time t ops) :
    ∃ a', Shows next a ops (trace step obs s ops) a' ∧
      R (ops.foldl (clock time) t) a' (run step s ops) := by
  induction ops generalizing t a s with
  | nil => exact ⟨a, .nil a, h⟩
  | cons o ops ih =>
    obtain ⟨hle, hrest⟩ := clocked_cons.1 hops
    obtain ⟨a', hnext, ha'⟩ := hstep t a s o hle h
    obtain ⟨a'', hshows, ha''⟩ := ih ha' hrest
    exact ⟨a'', .cons hnext hshows, ha''⟩

/-- States that show the same, and do so again after every step, show the same in every run. -/
theorem trace_congr {R : T → S → S → Prop}
    (hstep : ∀ t a b o, t ≤ clock time t o → R t a b →
      obs a o = obs b o ∧ R (clock time t o) (step a o) (step b o))
    {t : T} {a b : S} {ops : List O} (h : R t a b) (hops : Clocked time t ops) :
    trace step obs a ops = trace step obs b ops := by
  induction ops generalizing t a b with
  | nil => rfl
  | cons o ops ih =>
    obtain ⟨hle, hrest⟩ := clocked_cons.1 hops
    obtain ⟨hobs, hnext⟩ := hstep t a b o hle h
    rw [trace_cons, trace_cons, hobs, ih hnext hrest]

end Simulation

/-! ### Symmetries -/

section Symmetry

variable {E : Type*} {obs : S → O → Option E} {f : S → S} {g : O → O}

theorem run_map (hstep : ∀ s o, step (f s) (g o) = f (step s o)) (s : S) (ops : List O) :
    run step (f s) (ops.map g) = f (run step s ops) := by
  induction ops generalizing s with
  | nil => rfl
  | cons o ops ih => rw [List.map_cons, run_cons, hstep, ih, run_cons]

theorem trace_map_ops (hstep : ∀ s o, step (f s) (g o) = f (step s o))
    (hobs : ∀ s o, obs (f s) (g o) = obs s o) (s : S) (ops : List O) :
    trace step obs (f s) (ops.map g) = trace step obs s ops := by
  induction ops generalizing s with
  | nil => rfl
  | cons o ops ih => rw [List.map_cons, trace_cons, hobs, hstep, ih, trace_cons]

end Symmetry

/-! ### Parts -/

section Part

variable {P O' E : Type*} {stepP : P → O' → P} {part : S → P} {handed : S → O → Option O'}

/-- The part has run on the operations that were handed to it. -/
theorem run_part (hstep : ∀ s o, part (step s o) = (handed s o).elim (part s) (stepP (part s))) (s : S)
    (ops : List O) : part (run step s ops) = run stepP (part s) (trace step handed s ops) := by
  induction ops generalizing s with
  | nil => rfl
  | cons o ops ih =>
    rw [run_cons, ih, hstep, trace_cons]
    cases handed s o <;> rfl

/-- What shows of the part in a run of the system shows in its own run. -/
theorem trace_part (hstep : ∀ s o, part (step s o) = (handed s o).elim (part s) (stepP (part s)))
    (obs : P → O' → Option E) (s : S) (ops : List O) :
    trace step (fun s o => (handed s o).bind (obs (part s))) s ops =
      trace stepP obs (part s) (trace step handed s ops) := by
  induction ops generalizing s with
  | nil => rfl
  | cons o ops ih =>
    rw [trace_cons, ih, hstep, trace_cons]
    cases handed s o <;> rfl

end Part

end Runs
