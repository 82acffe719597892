import Mathlib.Logic.Function.Basic
import OoBot.Lib.Runs
import OoBot.Text

/-!
# `src/control.rs`: the control socket

Processes start and stop the control server on one socket path.  Each of them checks the path, probes
what is there, removes what does not answer, and binds; when it stops, it removes what is there.  The
steps of different processes come in any order.

A process removes what is at the path by the time it comes to it, and that may have been bound since
its probe: two processes can then serve at once (`two_runtimes`).  Apart from a probe that fails though
someone listens, this is the only way in which the path is lost (`one_runtime_iff`).

* An operation of the file system is one step, and may fail for reasons of its own, with the text of
  the fault.
* A server may also go without its shutdown: the process is killed, or accepting a connection fails.
-/

namespace OoBot

namespace Control

/-- What `bind_runtime_control_listener` returns in place of a listener. -/
inductive BindError
  | alreadyActive
  | io (err : Text)
  deriving DecidableEq

/-- The text of the error. -/
def BindError.text (socketPath : Text) : BindError → Text
  | .alreadyActive => "runtime control socket already active at ".toList ++ socketPath
  | .io err => err

/-- `ENOENT`. -/
def notFound : Text := "No such file or directory (os error 2)".toList

/-- `EADDRINUSE`. -/
def addrInUse : Text := "Address already in use (os error 98)".toList

/-- Where a process is: the operation of `bind_runtime_control_listener` that is next, or what it has
returned; and from then on where its server is. -/
inductive Phase
  | starting
  | checking
  | probing
  | removing
  | binding
  | permitting
  | failed (err : BindError)
  | serving
  | closing
  | closed
  deriving DecidableEq

/-- The process has a listener open. -/
def Phase.listens : Phase → Bool
  | .permitting | .serving | .closing => true
  | _ => false

/-- `bind_runtime_control_listener` has returned a listener, and the server has not ended. -/
def Phase.runs : Phase → Bool
  | .serving | .closing => true
  | _ => false

/-- What is at the socket path: something that was there before, or what a process has bound. -/
inductive Entry (P : Type*)
  | stale
  | boundBy (p : P)
  deriving DecidableEq

/-- The socket path, and where each process is. -/
structure Sys (P : Type*) where
  path : Option (Entry P)
  phase : P → Phase

/-- A step: a process carries out its next operation, which may fail; its server is told to stop, and
looks at the path; or its server is gone. -/
inductive Action (P : Type*)
  | advance (p : P) (fault : Option Text)
  | stop (p : P) (fault : Option Text)
  | vanish (p : P)
  deriving DecidableEq

/-- The process that takes the step. -/
def Action.process {P : Type*} : Action P → P
  | .advance p _ | .stop p _ | .vanish p => p

/-- No process has started. -/
def initial {P : Type*} (path : Option (Entry P)) : Sys P := ⟨path, fun _ => .starting⟩

section Model

variable {P : Type*} [DecidableEq P]

/-- A process moves on. -/
def Sys.move (s : Sys P) (p : P) (φ : Phase) : Sys P :=
  { s with phase := Function.update s.phase p φ }

/-- `Path::exists`: false also where it cannot tell. -/
def Sys.pathExists (s : Sys P) (fault : Option Text) : Bool := fault.isNone && s.path.isSome

/-- Someone listens at the socket path. -/
def Sys.listening (s : Sys P) : Bool :=
  match s.path with
  | some (.boundBy p) => (s.phase p).listens
  | _ => false

/-- `connect`. -/
def Sys.connects (s : Sys P) (fault : Option Text) : Bool := fault.isNone && s.listening

/-- The error of what needs something at the path. -/
def Sys.missing (s : Sys P) : Option Text := if s.path.isNone then some notFound else none

/-- The error of what needs the path to be free. -/
def Sys.inUse (s : Sys P) : Option Text := if s.path.isSome then some addrInUse else none

/-- An operation of `bind_runtime_control_listener` leads to `next`, unless it has an error. -/
def Sys.attempt (s : Sys P) (p : P) (err : Option Text) (next : Sys P) : Sys P :=
  match err with
  | some err => s.move p (.failed (.io err))
  | none => next

/-- The next operation of a process: one of `bind_runtime_control_listener`, or the removal at the end
of `serve_runtime_control`. -/
def Sys.advance (s : Sys P) (p : P) (fault : Option Text) : Sys P :=
  match s.phase p with
  | .starting => s.attempt p fault (s.move p .checking)
  | .checking => s.move p (if s.pathExists fault then .probing else .binding)
  | .probing =>
      -- any error of the probe counts as a socket that nobody serves
      s.move p (if s.connects fault then .failed .alreadyActive else .removing)
  | .removing => s.attempt p (fault.or s.missing) { s.move p .binding with path := none }
  | .binding =>
      s.attempt p (fault.or s.inUse) { s.move p .permitting with path := some (.boundBy p) }
  | .permitting => s.attempt p (fault.or s.missing) (s.move p .serving)
  | .closing => { s.move p .closed with path := if fault.isNone then none else s.path }
  | .failed _ | .serving | .closed => s

/-- One step. -/
def step (s : Sys P) : Action P → Sys P
  | .advance p fault => s.advance p fault
  | .stop p fault =>
      if s.phase p = .serving then s.move p (if s.pathExists fault then .closing else .closed) else s
  | .vanish p => s.move p .closed

/-! ### One runtime at a time -/

/-- No process binds while another listens, or comes to serve while another runs; and no process removes
a socket at which another one listens. -/
structure OneRuntime (s : Sys P) (a : Action P) : Prop where
  binds : ∀ p q, (s.phase p).listens = true → ((step s a).phase q).listens = true →
    (s.phase q).listens = true
  alone : ∀ p q, (s.phase p).runs = true → s.phase q ≠ .serving → (step s a).phase q = .serving →
    p = q
  keeps : ∀ p, s.path = some (.boundBy p) → (s.phase p).listens = true →
    (step s a).path ≠ s.path → p = a.process

/-- A probe of a socket that is served gets through, and nobody binds while another process is about to
remove what it has probed. -/
structure Undisturbed (s : Sys P) (a : Action P) : Prop where
  probe : ∀ p err, a = .advance p (some err) → s.phase p = .probing → s.listening = false
  bind : ∀ p, a = .advance p none → s.phase p = .binding → s.path = none →
    ∀ q, s.phase q ≠ .removing

/-! ### What a step can do -/

/-- What a step makes of its process and of the path. -/
inductive Effect (s : Sys P) (a : Action P) : Phase → Option (Entry P) → Prop
  | quiet {φ : Phase} (listens : φ.listens = true → (s.phase a.process).listens = true)
      (removing : φ = .removing → s.phase a.process = .removing) : Effect s a φ s.path
  | probeFails (phase : s.phase a.process = .probing)
      (fault : s.listening = true → ∃ err, a = .advance a.process (some err)) :
      Effect s a .removing s.path
  | removes (phase : s.phase a.process = .removing) : Effect s a .binding none
  | binds (phase : s.phase a.process = .binding) (free : s.path = none)
      (action : a = .advance a.process none) :
      Effect s a .permitting (some (.boundBy a.process))
  | closes (phase : s.phase a.process = .closing) : Effect s a .closed none

variable {s : Sys P} {a : Action P} {p : P} {φ : Phase} {fault : Option Text}

/-- The process ends up in a phase in which it neither listens nor is about to remove. -/
theorem effect_move (hlistens : φ.listens = false) (hremoving : φ ≠ .removing) (ha : a.process = p) :
    ∃ φ' path, Effect s a φ' path ∧ s.move p φ = ⟨path, Function.update s.phase a.process φ'⟩ := by
  subst ha
  refine ⟨φ, s.path, .quiet (fun h => ?_) (fun h => absurd h hremoving), rfl⟩
  rw [hlistens] at h
  cases h

/-- Nothing happens. -/
theorem effect_idle (s : Sys P) (a : Action P) :
    ∃ φ path, Effect s a φ path ∧ s = ⟨path, Function.update s.phase a.process φ⟩ :=
  ⟨s.phase a.process, s.path, .quiet id id, by rw [Function.update_eq_self]⟩

theorem or_eq_none {fault err : Option Text} (h : fault.or err = none) : fault = none ∧ err = none := by
  cases fault with
  | none => exact ⟨rfl, h⟩
  | some f => cases h

/-- **What the next operation of a process can do.** -/
theorem advance_effect (s : Sys P) (p : P) (fault : Option Text) :
    ∃ φ path, Effect s (.advance p fault) φ path ∧
      s.advance p fault = ⟨path, Function.update s.phase p φ⟩ := by
  -- an operation that fails
  have hfails (err : Text) : ∃ φ path, Effect s (.advance p fault) φ path ∧
      s.move p (.failed (.io err)) = ⟨path, Function.update s.phase p φ⟩ :=
    effect_move rfl nofun rfl
  unfold Sys.advance
  cases hphase : s.phase p with
  | starting =>
    cases fault with
    | some err => exact hfails err
    | none => exact effect_move rfl nofun rfl
  | checking =>
    cases s.pathExists fault with
    | true => exact effect_move rfl nofun rfl
    | false => exact effect_move rfl nofun rfl
  | probing =>
    dsimp only
    cases hconnects : s.connects fault with
    | true => exact effect_move rfl nofun rfl
    | false =>
      refine ⟨.removing, s.path, .probeFails hphase fun hlistening => ?_, rfl⟩
      cases fault with
      | some err => exact ⟨err, rfl⟩
      | none =>
        unfold Sys.connects at hconnects
        rw [hlistening] at hconnects
        cases hconnects
  | removing =>
    dsimp only
    cases herr : fault.or s.missing with
    | some err => exact hfails err
    | none => exact ⟨.binding, none, .removes hphase, rfl⟩
  | binding =>
    dsimp only
    cases herr : fault.or s.inUse with
    | some err => exact hfails err
    | none =>
      obtain ⟨rfl, hfree⟩ := or_eq_none herr
      refine ⟨.permitting, _, .binds hphase ?_ rfl, rfl⟩
      unfold Sys.inUse at hfree
      split_ifs at hfree with hsome
      exact Option.not_isSome_iff_eq_none.1 hsome
  | permitting =>
    dsimp only
    cases fault.or s.missing with
    | some err => exact hfails err
    | none =>
      refine ⟨.serving, s.path, .quiet (fun _ => ?_) nofun, rfl⟩
      show (s.phase p).listens = true
      rw [hphase]
      rfl
  | closing =>
    cases fault with
    | some err => exact effect_move rfl nofun rfl
    | none => exact ⟨.closed, none, .closes hphase, rfl⟩
  | failed err | serving | closed => exact effect_idle s (.advance p fault)

/-- **What a step can do.** -/
theorem step_effect (s : Sys P) (a : Action P) :
    ∃ φ path, Effect s a φ path ∧ step s a = ⟨path, Function.update s.phase a.process φ⟩ := by
  cases a with
  | advance p fault => exact advance_effect s p fault
  | stop p fault =>
    by_cases hserving : s.phase p = .serving
    · rw [step, if_pos hserving]
      cases s.pathExists fault with
      | false => exact effect_move rfl nofun rfl
      | true =>
        refine ⟨.closing, s.path, .quiet (fun _ => ?_) nofun, rfl⟩
        show (s.phase p).listens = true
        rw [hserving]
        rfl
    · rw [step, if_neg hserving]
      exact effect_idle s (.stop p fault)
  | vanish p => exact effect_move rfl nofun rfl

/-! ### The path is kept -/

/-- Who listens does so at the path, and then nobody is about to remove what is there. -/
structure Guarded (s : Sys P) : Prop where
  owner : ∀ p, (s.phase p).listens = true → s.path = some (.boundBy p)
  window : ∀ p q, (s.phase p).listens = true → s.phase q ≠ .removing

omit [DecidableEq P] in
theorem guarded_initial (path : Option (Entry P)) : Guarded (initial path) := ⟨nofun, nofun⟩

omit [DecidableEq P] in
theorem Phase.listens_of_runs {φ : Phase} (h : φ.runs = true) : φ.listens = true := by
  cases φ with
  | serving | closing => rfl
  | _ => cases h

omit [DecidableEq P] in
theorem Guarded.listening (h : Guarded s) (hp : (s.phase p).listens = true) : s.listening = true := by
  unfold Sys.listening
  rw [h.owner p hp]
  exact hp

/-- Who listens once a process has moved on: that process, or one that listened before. -/
theorem listens_update {phase : P → Phase} {q : P}
    (h : (Function.update phase p φ q).listens = true) :
    q = p ∧ φ.listens = true ∨ q ≠ p ∧ (phase q).listens = true := by
  by_cases hq : q = p
  · subst hq
    rw [Function.update_self] at h
    exact .inl ⟨rfl, h⟩
  · rw [Function.update_of_ne hq] at h
    exact .inr ⟨hq, h⟩

/-- Where the path is guarded, the next step leaves one runtime, whatever it is. -/
theorem Guarded.oneRuntime (h : Guarded s) (a : Action P) : OneRuntime s a := by
  obtain ⟨φ, path, heffect, hstep⟩ := step_effect s a
  refine ⟨?_, ?_, ?_⟩
  · intro p q hp hq
    rw [hstep] at hq
    rcases listens_update hq with ⟨rfl, hφ⟩ | ⟨-, hq⟩
    · cases heffect with
      | quiet hlistens _ => exact hlistens hφ
      | binds _ hfree => cases hfree.symm.trans (h.owner p hp)
      | probeFails | removes | closes => cases hφ
    · exact hq
  · intro p q hp hq hserving
    have hpath := h.owner p (Phase.listens_of_runs hp)
    rw [hstep] at hserving
    have hq' : q = a.process := by
      by_contra hne
      exact hq ((Function.update_of_ne hne _ _).symm.trans hserving)
    subst hq'
    have hφ : φ = .serving := (Function.update_self _ _ _).symm.trans hserving
    subst hφ
    cases heffect with
    | quiet hlistens _ =>
      have hown := h.owner _ (hlistens rfl)
      cases hpath.symm.trans hown
      rfl
  · intro p hpath hp hchange
    rw [hstep] at hchange
    cases heffect with
    | quiet => exact absurd rfl hchange
    | probeFails => exact absurd rfl hchange
    | removes hphase => exact absurd hphase (h.window p _ hp)
    | binds _ hfree => cases hfree.symm.trans hpath
    | closes hphase =>
      have hown := h.owner a.process (by rw [hphase]; rfl)
      cases hpath.symm.trans hown
      rfl

omit [DecidableEq P] in
/-- The path is guarded where nobody listens. -/
theorem guarded_of_silent (h : ∀ p, ¬ (s.phase p).listens = true) : Guarded s :=
  ⟨fun p hp => absurd hp (h p), fun p _ hp => absurd hp (h p)⟩

/-- **One step** that meets the condition keeps the path guarded. -/
theorem Guarded.step (h : Guarded s) (hundisturbed : Undisturbed s a) : Guarded (step s a) := by
  obtain ⟨φ, path, heffect, hstep⟩ := step_effect s a
  rw [hstep]
  cases heffect with
  | quiet hlistens hremoving =>
    have hback (p : P) (hp : (Function.update s.phase a.process φ p).listens = true) :
        (s.phase p).listens = true := by
      rcases listens_update hp with ⟨rfl, hφ⟩ | ⟨-, hp⟩
      · exact hlistens hφ
      · exact hp
    have hback' (q : P) (hq : Function.update s.phase a.process φ q = .removing) :
        s.phase q = .removing := by
      rw [Function.update_apply] at hq
      split_ifs at hq with heq
      · rw [heq]
        exact hremoving hq
      · exact hq
    exact ⟨fun p hp => h.owner p (hback p hp),
      fun p q hp hq => h.window p q (hback p hp) (hback' q hq)⟩
  | probeFails hphase hfault =>
    refine guarded_of_silent fun p hp => ?_
    rcases listens_update hp with ⟨-, hφ⟩ | ⟨-, hp⟩
    · cases hφ
    · -- the probe would have got through
      have hlistening := h.listening hp
      obtain ⟨err, ha⟩ := hfault hlistening
      rw [hundisturbed.probe _ _ ha hphase] at hlistening
      cases hlistening
  | removes hphase =>
    refine guarded_of_silent fun p hp => ?_
    rcases listens_update hp with ⟨-, hφ⟩ | ⟨-, hp⟩
    · cases hφ
    · exact h.window p _ hp hphase
  | binds hphase hfree ha =>
    constructor
    · intro p hp
      rcases listens_update hp with ⟨rfl, -⟩ | ⟨-, hp⟩
      · rfl
      · cases hfree.symm.trans (h.owner p hp)
    · intro _ q _ hq
      change Function.update s.phase a.process .permitting q = .removing at hq
      rw [Function.update_apply] at hq
      split_ifs at hq
      exact hundisturbed.bind _ ha hphase hfree q hq
  | closes hphase =>
    -- the listener that goes is the only one
    refine guarded_of_silent fun p hp => ?_
    rcases listens_update hp with ⟨-, hφ⟩ | ⟨hne, hp⟩
    · cases hφ
    · have hown := h.owner a.process (by rw [hphase]; rfl)
      cases (h.owner p hp).symm.trans hown
      exact hne rfl

/-! ### Why the condition is needed -/

/-- Once a process is about to remove what another one listens at, its next step removes it. -/
theorem not_oneRuntime_of_removing {q : P} (hq : s.phase q = .removing)
    (hpath : s.path = some (.boundBy p)) (hp : (s.phase p).listens = true) :
    ¬ OneRuntime s (.advance q none) := by
  intro h
  have hmissing : s.missing = none := by
    unfold Sys.missing
    rw [hpath]
    rfl
  have hgone : (step s (.advance q none)).path = none := by
    show (s.advance q none).path = none
    unfold Sys.advance
    rw [hq]
    show (s.attempt q (Option.none.or s.missing) _).path = none
    rw [hmissing]
    rfl
  have hsame := h.keeps p hpath hp (by rw [hgone, hpath]; exact nofun)
  have hne : p = q := hsame
  rw [hne, hq] at hp
  cases hp

/-- After a disturbed step, one more step may leave two runtimes, or one that nobody reaches. -/
theorem undisturbed_of_oneRuntime (h : ∀ b, OneRuntime (step s a) b) : Undisturbed s a := by
  constructor
  · rintro q err rfl hphase
    by_contra hlistening
    rw [Bool.not_eq_false] at hlistening
    unfold Sys.listening at hlistening
    split at hlistening
    case h_2 => cases hlistening
    case h_1 p hpath =>
      have hne : p ≠ q := by
        rintro rfl
        rw [hphase] at hlistening
        cases hlistening
      have hstep : step s (.advance q (some err)) = s.move q .removing := by
        show s.advance q (some err) = _
        unfold Sys.advance
        rw [hphase]
        rfl
      rw [hstep] at h
      refine @not_oneRuntime_of_removing _ _ (s.move q .removing) p q ?_ hpath ?_ (h _)
      · exact Function.update_self _ _ _
      · show (Function.update s.phase q .removing p).listens = true
        rw [Function.update_of_ne hne]
        exact hlistening
  · rintro p rfl hphase hfree q hq
    have hne : q ≠ p := by
      rintro rfl
      cases hphase.symm.trans hq
    have hstep : step s (.advance p none) =
        { s.move p .permitting with path := some (.boundBy p) } := by
      show s.advance p none = _
      unfold Sys.advance Sys.inUse
      rw [hphase, hfree]
      rfl
    rw [hstep] at h
    refine @not_oneRuntime_of_removing _ _ _ p q ?_ rfl ?_ (h _)
    · exact (Function.update_of_ne hne _ _).trans hq
    · show (Function.update s.phase p .permitting p).listens = true
      rw [Function.update_self]
      rfl

/-- **When the control socket admits one runtime.**  Any number of processes, in any order of their
steps, with or without something at the path: as long as every step is undisturbed, no process binds
or comes to serve while another runs, and no process removes a socket at which another one listens; and
the condition asks for no more than that this is never one step away from failing. -/
theorem one_runtime_iff (path : Option (Entry P)) (actions : List (Action P)) :
    (Runs.Each Control.step Undisturbed (initial path) actions →
        Runs.Each Control.step OneRuntime (initial path) actions) ∧
      (Runs.Each Control.step Undisturbed (initial path) actions ↔
        Runs.Each Control.step (fun s a => ∀ b, OneRuntime (Control.step s a) b) (initial path)
          actions) := by
  refine ⟨fun h => ?_, fun h => ?_, fun h => ?_⟩
  · exact Runs.each_of_inv (I := Guarded)
      (fun _ a hguarded hundisturbed => ⟨hguarded.oneRuntime a, hguarded.step hundisturbed⟩)
      (guarded_initial path) h
  · exact Runs.each_of_inv (I := Guarded)
      (fun _ _ hguarded hundisturbed =>
        ⟨(hguarded.step hundisturbed).oneRuntime, hguarded.step hundisturbed⟩)
      (guarded_initial path) h
  · exact h.mono fun _ _ => undisturbed_of_oneRuntime

/-- A process that is alone is never disturbed. -/
theorem undisturbed_of_sole (path : Option (Entry P)) (p : P) {actions : List (Action P)}
    (h : Runs.Each Control.step (fun _ a => a.process = p) (initial path) actions) :
    Runs.Each Control.step Undisturbed (initial path) actions := by
  refine Runs.each_of_inv (I := fun s => ∀ q, q ≠ p → s.phase q = .starting) ?_ (fun _ _ => rfl) h
  rintro s a hstarting rfl
  refine ⟨⟨?_, ?_⟩, ?_⟩
  · rintro p err rfl hphase
    unfold Sys.listening
    split
    case h_2 => rfl
    case h_1 q hpath =>
      by_cases hq : q = p
      · rw [hq, hphase]
        rfl
      · rw [hstarting q hq]
        rfl
  · rintro p rfl hphase - q hq
    by_cases heq : q = p
    · cases hphase.symm.trans (heq ▸ hq)
    · cases hq.symm.trans (hstarting q heq)
  · intro q hq
    obtain ⟨φ, path, -, hstep⟩ := step_effect s a
    rw [hstep]
    exact (Function.update_of_ne hq _ _).trans (hstarting q hq)

end Model

/-! ### Two runtimes -/

/-- The next operation of a process, without a fault. -/
def go (p : ℕ) : Action ℕ := .advance p none

/-- Two processes probe a stale socket.  The first one removes it, binds and serves; then the second one
removes the socket of the first, binds and serves. -/
def staleRace : List (Action ℕ) := [0, 1, 0, 1, 0, 1, 0, 0, 0, 1, 1, 1].map go

/-- A process finds the socket of another one that stops before the probe.  A third process binds and
serves, before the first one removes its socket, binds and serves. -/
def shutdownRace : List (Action ℕ) :=
  [0, 0, 0, 0, 1, 1].map go ++ .stop 0 none :: [0, 1, 2, 2, 2, 2, 1, 1, 1].map go

/-- Two processes serve at once, and one has removed the socket of the other: from a stale socket, and
from a free path. -/
theorem two_runtimes :
    (¬ Runs.Each step OneRuntime (initial (some .stale)) staleRace ∧
      (Runs.run step (initial (some .stale)) staleRace).phase 0 = .serving ∧
      (Runs.run step (initial (some .stale)) staleRace).phase 1 = .serving) ∧
    ¬ Runs.Each step OneRuntime (initial none) shutdownRace ∧
      (Runs.run step (initial none) shutdownRace).phase 1 = .serving ∧
      (Runs.run step (initial none) shutdownRace).phase 2 = .serving := by
  refine ⟨⟨fun h => ?_, rfl, rfl⟩, fun h => ?_, rfl, rfl⟩
  · have hsplit : staleRace = [0, 1, 0, 1, 0, 1, 0, 0, 0].map go ++ [1, 1, 1].map go := rfl
    rw [hsplit, Runs.each_append] at h
    exact absurd (h.2.1.keeps 0 rfl rfl (by decide)) (by decide)
  · have hsplit : shutdownRace = ([0, 0, 0, 0, 1, 1].map go ++
        .stop 0 none :: [0, 1, 2, 2, 2, 2].map go) ++ [1, 1, 1].map go := rfl
    rw [hsplit, Runs.each_append] at h
    exact absurd (h.2.1.keeps 2 rfl rfl (by decide)) (by decide)

end Control

end OoBot
