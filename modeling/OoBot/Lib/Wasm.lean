import Mathlib.Data.List.Forall2
import Mathlib.Data.List.Induction
import Mathlib.Data.Nat.Init
import Mathlib.Tactic.Common

/-!
# A fuelled WebAssembly fragment

Structured WebAssembly without stores, tables or host calls: `i32`/`i64` numbers, locals, `block`,
`loop`, `if`, branches, `return`, byte loads and calls to functions that are already defined.

Execution consumes fuel by the rule documented for Wasmtime: one unit for each executed operator,
none for `block`, `loop`, `return`, `nop` and `drop` (and for `end` and `else`, which are not
operators of the tree syntax), and one unit on entry to a function.  A computation is a function of
the fuel that is left; it has no result when the fuel does not suffice.

* `Instr`, `Frame`, `Outcome`; `exec`/`execs`, `Func.enter`, `link`;
* `Costs m c a`: the computation `m` needs exactly `c` units and ends in `a`, so it finishes on
  every fuel from `c` on and on no smaller one;
* the rules for `Costs`: sequencing, blocks, loops (`LoopCosts`), and `eval`, which computes outcome
  and cost of loop-free code (`costs_of_evals`).
-/

namespace Wasm

/-- A number on the operand stack or in a local. -/
inductive Val
  | i32 (v : BitVec 32)
  | i64 (v : BitVec 64)
  deriving DecidableEq, Repr

/-- Binary `i32` operators; comparisons yield `1` or `0`. -/
inductive BinOp
  | add
  | sub
  | and
  | or
  | eq
  | ne
  | ltS
  | gtS
  | leS
  | geS
  deriving DecidableEq, Repr

/-- The `i32` value of a truth value. -/
def ofBool (b : Bool) : BitVec 32 := if b then 1 else 0

/-- The operators on `i32`, with wrapping arithmetic and signed comparisons. -/
def BinOp.apply : BinOp → BitVec 32 → BitVec 32 → BitVec 32
  | .add, a, b => a + b
  | .sub, a, b => a - b
  | .and, a, b => a &&& b
  | .or, a, b => a ||| b
  | .eq, a, b => ofBool (a == b)
  | .ne, a, b => ofBool (a != b)
  | .ltS, a, b => ofBool (a.slt b)
  | .gtS, a, b => ofBool (b.slt a)
  | .leS, a, b => ofBool (a.sle b)
  | .geS, a, b => ofBool (b.sle a)

/-- Operators that neither branch nor call. -/
inductive Op
  | localGet (x : ℕ)
  | localSet (x : ℕ)
  | i32Const (v : BitVec 32)
  | i64Const (v : BitVec 64)
  | i32Bin (op : BinOp)
  | i32Load8U
  | i64ExtendI32U
  | i64Or
  | nop
  | drop
  deriving DecidableEq, Repr

/-- The fuel charged for an operator. -/
def Op.cost : Op → ℕ
  | .nop | .drop => 0
  | _ => 1

/-- Instructions; labels are counted from the innermost enclosing `block`, `loop` or `if`. -/
inductive Instr
  | op (o : Op)
  | block (body : List Instr)
  | loop (body : List Instr)
  | ifElse (thn els : List Instr)
  | br (l : ℕ)
  | brIf (l : ℕ)
  | ret
  | call (f : ℕ)

namespace Instr

abbrev localGet (x : ℕ) : Instr := .op (.localGet x)
abbrev localSet (x : ℕ) : Instr := .op (.localSet x)
abbrev i32Const (v : BitVec 32) : Instr := .op (.i32Const v)
abbrev i64Const (v : BitVec 64) : Instr := .op (.i64Const v)
abbrev i32Add : Instr := .op (.i32Bin .add)
abbrev i32Sub : Instr := .op (.i32Bin .sub)
abbrev i32And : Instr := .op (.i32Bin .and)
abbrev i32Or : Instr := .op (.i32Bin .or)
abbrev i32Eq : Instr := .op (.i32Bin .eq)
abbrev i32Ne : Instr := .op (.i32Bin .ne)
abbrev i32LtS : Instr := .op (.i32Bin .ltS)
abbrev i32GtS : Instr := .op (.i32Bin .gtS)
abbrev i32LeS : Instr := .op (.i32Bin .leS)
abbrev i32GeS : Instr := .op (.i32Bin .geS)
abbrev i32Load8U : Instr := .op .i32Load8U
abbrev i64ExtendI32U : Instr := .op .i64ExtendI32U
abbrev i64Or : Instr := .op .i64Or

end Instr

/-- A linear memory: its size in bytes and its contents. -/
structure Memory where
  size : ℕ
  byte : ℕ → UInt8

/-- A load of one byte, `none` beyond the end of the memory. -/
def Memory.load8 (mem : Memory) (a : ℕ) : Option UInt8 :=
  if a < mem.size then some (mem.byte a) else none

/-- The first `n` bytes of a memory: loads at or beyond `n` trap. -/
def Memory.upTo (mem : Memory) (n : ℕ) : Memory := { mem with size := min mem.size n }

theorem Memory.load8_upTo {mem : Memory} {n a : ℕ} (h : a < n) :
    (mem.upTo n).load8 a = mem.load8 a := by
  unfold load8 upTo
  by_cases hs : a < mem.size
  · rw [if_pos (by simp only; omega), if_pos hs]
  · rw [if_neg (by simp only; omega), if_neg hs]

/-- Why execution stops without a result: a load beyond the memory, or code that does not validate
(a missing operand or local, an operand of the wrong type, a label or function out of range). -/
inductive Trap
  | memoryOutOfBounds
  | invalid
  deriving DecidableEq, Repr

/-- Locals and operand stack, top first. -/
structure Frame where
  locals : List Val
  stack : List Val
  deriving DecidableEq, Repr

/-- How an instruction ends. -/
inductive Outcome
  | next (fr : Frame)
  | br (l : ℕ) (fr : Frame)
  | ret (fr : Frame)
  | trap (t : Trap)
  deriving DecidableEq, Repr

/-! ### Fuelled computations -/

/-- A computation that draws on fuel: the result and the fuel left over, or `none` when the fuel
runs out. -/
abbrev Fuelled (β : Type) := ℕ → Option (β × ℕ)

variable {β γ : Type}

/-- The computation that needs no fuel. -/
def done (b : β) : Fuelled β := fun f => some (b, f)

/-- Pay `c` units first. -/
def tick (c : ℕ) (m : Fuelled β) : Fuelled β := fun f => if c ≤ f then m (f - c) else none

/-- Sequencing. -/
def andThen (m : Fuelled β) (k : β → Fuelled γ) : Fuelled γ := fun f =>
  match m f with
  | some (b, f') => k b f'
  | none => none

/-- The result of calling a function: its result values, or a trap. -/
abbrev CallResult := Except Trap (List Val)

/-- The functions that may be called: number of parameters and meaning. -/
abbrev Env := List (ℕ × (List Val → Fuelled CallResult))

/-! ### Execution -/

/-- The effect of an operator on the frame. -/
def Op.apply (mem : Memory) (fr : Frame) : Op → Outcome
  | .localGet x =>
      match fr.locals[x]? with
      | some v => .next { fr with stack := v :: fr.stack }
      | none => .trap .invalid
  | .localSet x =>
      match fr.stack with
      | v :: s =>
          if x < fr.locals.length then .next ⟨fr.locals.set x v, s⟩ else .trap .invalid
      | [] => .trap .invalid
  | .i32Const v => .next { fr with stack := .i32 v :: fr.stack }
  | .i64Const v => .next { fr with stack := .i64 v :: fr.stack }
  | .i32Bin op =>
      match fr.stack with
      | .i32 b :: .i32 a :: s => .next { fr with stack := .i32 (op.apply a b) :: s }
      | _ => .trap .invalid
  | .i32Load8U =>
      match fr.stack with
      | .i32 a :: s =>
          match mem.load8 a.toNat with
          | some b => .next { fr with stack := .i32 (BitVec.ofNat 32 b.toNat) :: s }
          | none => .trap .memoryOutOfBounds
      | _ => .trap .invalid
  | .i64ExtendI32U =>
      match fr.stack with
      | .i32 a :: s => .next { fr with stack := .i64 (a.setWidth 64) :: s }
      | _ => .trap .invalid
  | .i64Or =>
      match fr.stack with
      | .i64 b :: .i64 a :: s => .next { fr with stack := .i64 (a ||| b) :: s }
      | _ => .trap .invalid
  | .nop => .next fr
  | .drop =>
      match fr.stack with
      | _ :: s => .next { fr with stack := s }
      | [] => .trap .invalid

/-- Leaving a label without results: the operands below it reappear. -/
def leave (fr : Frame) : Outcome → Outcome
  | .next fr' => .next { fr' with stack := fr.stack }
  | .br 0 fr' => .next { fr' with stack := fr.stack }
  | .br (l + 1) fr' => .br l fr'
  | o => o

/-- At most `n` rounds of a loop whose body means `m`.  Every round but the last ends in a branch,
which costs fuel, so `n` rounds are enough on any fuel below `n`. -/
def rounds (m : Frame → Fuelled Outcome) : ℕ → Frame → Fuelled Outcome
  | 0, _ => fun _ => none
  | n + 1, fr =>
      andThen (m { fr with stack := [] }) fun o =>
        match o with
        | .br 0 fr' => rounds m n { fr' with stack := fr.stack }
        | o => done (leave fr o)

/-- A call: take the arguments from the stack, push the results. -/
def callFunc (env : Env) (f : ℕ) (fr : Frame) : Fuelled Outcome :=
  match env[f]? with
  | some (n, m) =>
      if n ≤ fr.stack.length then
        andThen (m (fr.stack.take n).reverse) fun r =>
          match r with
          | .ok vs => done (.next { fr with stack := vs ++ fr.stack.drop n })
          | .error t => done (.trap t)
      else done (.trap .invalid)
  | none => done (.trap .invalid)

/-- Sequencing of outcomes: code after an instruction runs when the instruction falls through. -/
def thenRun (m : Fuelled Outcome) (k : Frame → Fuelled Outcome) : Fuelled Outcome :=
  andThen m fun o =>
    match o with
    | .next fr => k fr
    | o => done o

mutual

/-- One instruction. -/
def exec (env : Env) (mem : Memory) : Instr → Frame → Fuelled Outcome
  | .op o, fr => tick o.cost <| done (o.apply mem fr)
  | .block body, fr =>
      andThen (execs env mem body { fr with stack := [] }) fun o => done (leave fr o)
  | .loop body, fr => fun f => rounds (execs env mem body) (f + 1) fr f
  | .ifElse thn els, fr =>
      tick 1 <|
        match fr.stack with
        | .i32 c :: s =>
            andThen (if c ≠ 0 then execs env mem thn ⟨fr.locals, []⟩
              else execs env mem els ⟨fr.locals, []⟩) fun o => done (leave ⟨fr.locals, s⟩ o)
        | _ => done (.trap .invalid)
  | .br l, fr => tick 1 <| done (.br l fr)
  | .brIf l, fr =>
      tick 1 <|
        match fr.stack with
        | .i32 c :: s => done (if c ≠ 0 then .br l ⟨fr.locals, s⟩ else .next ⟨fr.locals, s⟩)
        | _ => done (.trap .invalid)
  | .ret, fr => done (.ret fr)
  | .call f, fr => tick 1 <| callFunc env f fr

/-- A sequence of instructions. -/
def execs (env : Env) (mem : Memory) : List Instr → Frame → Fuelled Outcome
  | [], fr => done (.next fr)
  | i :: is, fr => thenRun (exec env mem i fr) (execs env mem is)

end

/-- A function: number of parameters, the zero values of its further locals, body. -/
structure Func where
  params : ℕ
  locals : List Val
  body : List Instr

/-- The results of a function body: what is on the stack when it falls through, returns, or
branches to the outermost label. -/
def results : Outcome → CallResult
  | .next fr => .ok fr.stack
  | .ret fr => .ok fr.stack
  | .br 0 fr => .ok fr.stack
  | .br (_ + 1) _ => .error .invalid
  | .trap t => .error t

/-- Entering a function costs one unit. -/
def Func.enter (env : Env) (mem : Memory) (fn : Func) (args : List Val) : Fuelled CallResult :=
  tick 1 <| andThen (execs env mem fn.body ⟨args ++ fn.locals, []⟩) fun o => done (results o)

/-- The functions of a module in which every call goes to an earlier function. -/
def link (mem : Memory) (fns : List Func) : Env :=
  fns.foldl (fun env fn => env ++ [(fn.params, fn.enter env mem)]) []

/-! ### Exact cost -/

/-- `m` ends in `a` after exactly `c` units of fuel, and runs out on any smaller amount. -/
def Costs (m : Fuelled β) (c : ℕ) (a : β) : Prop :=
  ∀ f, m f = if c ≤ f then some (a, f - c) else none

theorem Costs.run {m : Fuelled β} {c : ℕ} {a : β} (h : Costs m c a) {f : ℕ} (hf : c ≤ f) :
    m f = some (a, f - c) := by
  rw [h f, if_pos hf]

theorem Costs.outOfFuel {m : Fuelled β} {c : ℕ} {a : β} (h : Costs m c a) {f : ℕ} (hf : f < c) :
    m f = none := by
  rw [h f, if_neg (by omega)]

/-- The result and the cost of a computation are unique. -/
theorem Costs.unique {m : Fuelled β} {c c' : ℕ} {a a' : β} (h : Costs m c a) (h' : Costs m c' a') :
    a = a' := by
  have hrun := h.run (Nat.le_add_right c c')
  rw [h'.run (Nat.le_add_left c' c)] at hrun
  exact (congrArg Prod.fst (Option.some.inj hrun)).symm

theorem costs_done (a : β) : Costs (done a) 0 a := fun f => by simp [done]

theorem costs_tick {m : Fuelled β} {c : ℕ} {a : β} (k : ℕ) (h : Costs m c a) :
    Costs (tick k m) (k + c) a := by
  intro f
  unfold tick
  by_cases hk : k ≤ f
  · rw [if_pos hk, h]
    by_cases hc : k + c ≤ f
    · rw [if_pos (by omega), if_pos hc, Nat.sub_sub]
    · rw [if_neg (by omega), if_neg hc]
  · rw [if_neg hk, if_neg (by omega)]

theorem costs_andThen {m : Fuelled β} {k : β → Fuelled γ} {c c' : ℕ} {a : β} {b : γ}
    (hm : Costs m c a) (hk : Costs (k a) c' b) : Costs (andThen m k) (c + c') b := by
  intro f
  unfold andThen
  by_cases hc : c ≤ f
  · rw [hm.run hc]
    show k a (f - c) = _
    rw [hk]
    by_cases hc' : c + c' ≤ f
    · rw [if_pos (by omega), if_pos hc', Nat.sub_sub]
    · rw [if_neg (by omega), if_neg hc']
  · rw [hm.outOfFuel (by omega), if_neg (by omega)]

/-- What is left of a sequence after an instruction of known cost. -/
theorem costs_thenRun {m : Fuelled Outcome} {k : Frame → Fuelled Outcome} {c c' : ℕ}
    {o o' : Outcome} (hm : Costs m c o)
    (hk : Costs (match o with | .next fr => k fr | o => done o) c' o') :
    Costs (thenRun m k) (c + c') o' :=
  costs_andThen hm hk

/-- The loop whose body means `m` ends in `o` after exactly `c` units, however many rounds beyond
the fuel are allowed. -/
def LoopCosts (m : Frame → Fuelled Outcome) (fr : Frame) (c : ℕ) (o : Outcome) : Prop :=
  ∀ n f, f < n → rounds m n fr f = if c ≤ f then some (o, f - c) else none

/-- The last round of a loop. -/
theorem LoopCosts.exit {m : Frame → Fuelled Outcome} {fr : Frame} {c : ℕ} {o : Outcome}
    (h : Costs (m { fr with stack := [] }) c o) (ho : ∀ fr', o ≠ .br 0 fr') :
    LoopCosts m fr c (leave fr o) := by
  intro n f hf
  obtain ⟨n, rfl⟩ : ∃ k, n = k + 1 := ⟨n - 1, by omega⟩
  have hm : Costs (rounds m (n + 1) fr) (c + 0) (leave fr o) := by
    refine costs_andThen h ?_
    match o, ho with
    | .next _, _ => exact costs_done _
    | .br 0 fr', ho => exact absurd rfl (ho fr')
    | .br (_ + 1) _, _ => exact costs_done _
    | .ret _, _ => exact costs_done _
    | .trap _, _ => exact costs_done _
  simpa using hm f

/-- A round that branches back costs fuel, so the rounds left still exceed the fuel left. -/
theorem LoopCosts.again {m : Frame → Fuelled Outcome} {fr fr' : Frame} {c c' : ℕ} {o : Outcome}
    (h : Costs (m { fr with stack := [] }) c (.br 0 fr')) (hc : 0 < c)
    (hl : LoopCosts m { fr' with stack := fr.stack } c' o) : LoopCosts m fr (c + c') o := by
  intro n f hf
  obtain ⟨n, rfl⟩ : ∃ k, n = k + 1 := ⟨n - 1, by omega⟩
  simp only [rounds, andThen]
  by_cases hcf : c ≤ f
  · rw [h.run hcf]
    simp only
    rw [hl n (f - c) (by omega)]
    by_cases hc' : c + c' ≤ f
    · rw [if_pos (by omega), if_pos hc', Nat.sub_sub]
    · rw [if_neg (by omega), if_neg hc']
  · rw [h.outOfFuel (by omega), if_neg (by omega)]

theorem costs_loop {env : Env} {mem : Memory} {body : List Instr} {fr : Frame} {c : ℕ} {o : Outcome}
    (h : LoopCosts (execs env mem body) fr c o) : Costs (exec env mem (.loop body) fr) c o :=
  fun f => h (f + 1) f (Nat.lt_succ_self f)

theorem costs_block {env : Env} {mem : Memory} {body : List Instr} {fr : Frame} {c : ℕ} {o : Outcome}
    (h : Costs (execs env mem body { fr with stack := [] }) c o) :
    Costs (exec env mem (.block body) fr) c (leave fr o) := by
  simpa [exec] using costs_andThen (k := fun o => done (leave fr o)) h (costs_done _)

/-! ### Loop-free code -/

/-- The outcome of loop-free code and its exact cost; `none` stands for "not known". -/
abbrev Known (β : Type) := Option (β × ℕ)

/-- What is known about the functions that may be called. -/
abbrev KnownEnv := List (ℕ × (List Val → Known CallResult))

/-- `c` more units. -/
def Known.plus (c : ℕ) (r : Known β) : Known β := r.map fun p => (p.1, c + p.2)

/-- Sequencing. -/
def Known.andThen (r : Known β) (k : β → Known γ) : Known γ :=
  match r with
  | some (b, c) => (k b).plus c
  | none => none

mutual

/-- Outcome and cost of one instruction. -/
def eval (kenv : KnownEnv) (mem : Memory) : Instr → Frame → Known Outcome
  | .op o, fr => some (o.apply mem fr, o.cost)
  | .block body, fr =>
      (evals kenv mem body { fr with stack := [] }).andThen fun o => some (leave fr o, 0)
  | .loop _, _ => none
  | .ifElse thn els, fr =>
      Known.plus 1 <|
        match fr.stack with
        | .i32 c :: s =>
            Known.andThen (if c ≠ 0 then evals kenv mem thn ⟨fr.locals, []⟩
              else evals kenv mem els ⟨fr.locals, []⟩) fun o => some (leave ⟨fr.locals, s⟩ o, 0)
        | _ => some (.trap .invalid, 0)
  | .br l, fr => some (.br l fr, 1)
  | .brIf l, fr =>
      match fr.stack with
      | .i32 c :: s => some (if c ≠ 0 then .br l ⟨fr.locals, s⟩ else .next ⟨fr.locals, s⟩, 1)
      | _ => some (.trap .invalid, 1)
  | .ret, fr => some (.ret fr, 0)
  | .call f, fr =>
      Known.plus 1 <|
        match kenv[f]? with
        | some (n, m) =>
            if n ≤ fr.stack.length then
              Known.andThen (m (fr.stack.take n).reverse) fun r =>
                match r with
                | .ok vs => some (.next { fr with stack := vs ++ fr.stack.drop n }, 0)
                | .error t => some (.trap t, 0)
            else some (.trap .invalid, 0)
        | none => some (.trap .invalid, 0)

/-- Outcome and cost of a sequence of instructions. -/
def evals (kenv : KnownEnv) (mem : Memory) : List Instr → Frame → Known Outcome
  | [], fr => some (.next fr, 0)
  | i :: is, fr =>
      (eval kenv mem i fr).andThen fun o =>
        match o with
        | .next fr => evals kenv mem is fr
        | o => some (o, 0)

end

/-- What is known about a function from what is known about its body. -/
def Func.known (kenv : KnownEnv) (mem : Memory) (fn : Func) (args : List Val) : Known CallResult :=
  ((evals kenv mem fn.body ⟨args ++ fn.locals, []⟩).andThen fun o => some (results o, 0)).plus 1

/-- What is known about the functions of a module. -/
def linkKnown (mem : Memory) (fns : List Func) : KnownEnv :=
  fns.foldl (fun kenv fn => kenv ++ [(fn.params, fn.known kenv mem)]) []

/-- The known outcome and cost, if any, are right. -/
def Sound (r : Known β) (m : Fuelled β) : Prop := ∀ b c, r = some (b, c) → Costs m c b

/-- What is known about the functions is right. -/
def SoundEnv (kenv : KnownEnv) (env : Env) : Prop :=
  List.Forall₂ (fun k e => k.1 = e.1 ∧ ∀ args, Sound (k.2 args) (e.2 args)) kenv env

theorem sound_some {b : β} {c : ℕ} {m : Fuelled β} (h : Costs m c b) : Sound (some (b, c)) m := by
  intro b' c' he
  cases he
  exact h

theorem Sound.plus {r : Known β} {m : Fuelled β} (h : Sound r m) (k : ℕ) :
    Sound (r.plus k) (tick k m) := by
  intro b c he
  cases r with
  | none => cases he
  | some p =>
    cases he
    exact costs_tick k (h _ _ rfl)

theorem Sound.andThen {r : Known β} {m : Fuelled β} {k : β → Known γ} {l : β → Fuelled γ}
    (h : Sound r m) (hk : ∀ b, Sound (k b) (l b)) : Sound (r.andThen k) (andThen m l) := by
  intro b c he
  cases r with
  | none => cases he
  | some p =>
    simp only [Known.andThen, Known.plus] at he
    cases hb : k p.1 with
    | none => rw [hb] at he; cases he
    | some q =>
      rw [hb] at he
      cases he
      exact costs_andThen (h _ _ rfl) (hk p.1 _ _ hb)

section Soundness

variable {kenv : KnownEnv} {env : Env} {mem : Memory}

theorem soundEnv_get (h : SoundEnv kenv env) (f : ℕ) :
    (kenv[f]? = none ∧ env[f]? = none) ∨
    ∃ n m m', kenv[f]? = some (n, m) ∧ env[f]? = some (n, m') ∧ ∀ args, Sound (m args) (m' args) := by
  unfold SoundEnv at h
  induction h generalizing f with
  | nil => exact Or.inl ⟨rfl, rfl⟩
  | cons hd _ ih =>
    cases f with
    | zero => exact Or.inr ⟨_, _, _, rfl, by rw [hd.1]; rfl, hd.2⟩
    | succ f => simpa using ih f

mutual

theorem sound_eval (h : SoundEnv kenv env) :
    ∀ (i : Instr) (fr : Frame), Sound (eval kenv mem i fr) (exec env mem i fr)
  | .op o, fr => by
    simpa [eval, exec] using sound_some (costs_tick o.cost (costs_done (o.apply mem fr)))
  | .block body, fr => by
    simp only [eval, exec]
    exact (sound_evals h body _).andThen fun o => sound_some (costs_done _)
  | .loop _, fr => by
    -- the rounds of a loop are not known beforehand
    intro b c he
    simp [eval] at he
  | .ifElse thn els, fr => by
    simp only [eval, exec]
    refine Sound.plus ?_ 1
    split
    · refine Sound.andThen ?_ fun o => sound_some (costs_done _)
      split_ifs
      · exact sound_evals h thn _
      · exact sound_evals h els _
    · exact sound_some (costs_done _)
  | .br l, fr => by
    simpa [eval, exec] using sound_some (costs_tick 1 (costs_done (Outcome.br l fr)))
  | .brIf l, fr => by
    simp only [eval, exec]
    split
    · exact sound_some (costs_tick 1 (costs_done _))
    · exact sound_some (costs_tick 1 (costs_done _))
  | .ret, fr => by
    simpa [eval, exec] using sound_some (costs_done (Outcome.ret fr))
  | .call f, fr => by
    simp only [eval, exec, callFunc]
    refine Sound.plus ?_ 1
    rcases soundEnv_get h f with ⟨hk, he⟩ | ⟨n, m, m', hk, he, hm⟩
    · rw [hk, he]
      exact sound_some (costs_done _)
    · rw [hk, he]
      simp only
      split_ifs
      · refine (hm _).andThen fun r => ?_
        cases r with
        | ok vs => exact sound_some (costs_done _)
        | error t => exact sound_some (costs_done _)
      · exact sound_some (costs_done _)

theorem sound_evals (h : SoundEnv kenv env) :
    ∀ (is : List Instr) (fr : Frame), Sound (evals kenv mem is fr) (execs env mem is fr)
  | [], fr => by
    simpa [evals, execs] using sound_some (costs_done (Outcome.next fr))
  | i :: is, fr => by
    simp only [evals, execs, thenRun]
    refine (sound_eval h i fr).andThen fun o => ?_
    cases o with
    | next fr' => exact sound_evals h is fr'
    | br l fr' => exact sound_some (costs_done _)
    | ret fr' => exact sound_some (costs_done _)
    | trap t => exact sound_some (costs_done _)

end

theorem sound_enter (h : SoundEnv kenv env) (fn : Func) (args : List Val) :
    Sound (fn.known kenv mem args) (fn.enter env mem args) :=
  ((sound_evals h _ _).andThen fun _ => sound_some (costs_done _)).plus 1

/-- What `linkKnown` says about the functions of a module is right. -/
theorem soundEnv_link (mem : Memory) (fns : List Func) :
    SoundEnv (linkKnown mem fns) (link mem fns) := by
  induction fns using List.reverseRecOn with
  | nil => exact List.Forall₂.nil
  | append_singleton fns fn ih =>
    simp only [linkKnown, link, List.foldl_append, List.foldl_cons, List.foldl_nil] at ih ⊢
    exact List.rel_append ih (.cons ⟨rfl, fun args => sound_enter ih fn args⟩ .nil)

/-- Loop-free code in a module has the outcome and the cost that `evals` computes. -/
theorem costs_of_evals {fns : List Func} {is : List Instr} {fr : Frame} {o : Outcome} {c : ℕ}
    (h : evals (linkKnown mem fns) mem is fr = some (o, c)) :
    Costs (execs (link mem fns) mem is fr) c o :=
  sound_evals (soundEnv_link mem fns) is fr o c h

end Soundness

/-! ### Symbolic execution of loop-free code -/

@[simp] theorem Known.plus_some (b : β) (c d : ℕ) : Known.plus c (some (b, d)) = some (b, c + d) := rfl

@[simp] theorem Known.plus_plus (r : Known β) (c d : ℕ) : (r.plus d).plus c = r.plus (c + d) := by
  cases r <;> simp [Known.plus, Nat.add_assoc]

section Symbolic

variable {kenv : KnownEnv} {mem : Memory} {is : List Instr} {fr fr' : Frame} {ls st : List Val}

@[simp] theorem evals_nil : evals kenv mem [] fr = some (.next fr, 0) := by
  simp [evals]

/-- Code after an instruction that falls through. -/
theorem evals_cons_next {i : Instr} {c : ℕ} (h : eval kenv mem i fr = some (.next fr', c)) :
    evals kenv mem (i :: is) fr = (evals kenv mem is fr').plus c := by
  rw [evals, h]
  rfl

@[simp] theorem evals_localGet (x : ℕ) :
    evals kenv mem (.op (.localGet x) :: is) ⟨ls, st⟩ =
      match ls[x]? with
      | some v => (evals kenv mem is ⟨ls, v :: st⟩).plus 1
      | none => some (.trap .invalid, 1) := by
  simp only [evals, eval, Op.apply, Op.cost]
  cases ls[x]? <;> rfl

@[simp] theorem evals_localSet (x : ℕ) (v : Val) :
    evals kenv mem (.op (.localSet x) :: is) ⟨ls, v :: st⟩ =
      if x < ls.length then (evals kenv mem is ⟨ls.set x v, st⟩).plus 1
      else some (.trap .invalid, 1) := by
  simp only [evals, eval, Op.apply, Op.cost]
  split_ifs <;> rfl

@[simp] theorem evals_i32Const (v : BitVec 32) :
    evals kenv mem (.op (.i32Const v) :: is) ⟨ls, st⟩ =
      (evals kenv mem is ⟨ls, .i32 v :: st⟩).plus 1 := by
  rw [evals]; rfl

@[simp] theorem evals_i64Const (v : BitVec 64) :
    evals kenv mem (.op (.i64Const v) :: is) ⟨ls, st⟩ =
      (evals kenv mem is ⟨ls, .i64 v :: st⟩).plus 1 := by
  rw [evals]; rfl

@[simp] theorem evals_i32Bin (op : BinOp) (a b : BitVec 32) :
    evals kenv mem (.op (.i32Bin op) :: is) ⟨ls, .i32 b :: .i32 a :: st⟩ =
      (evals kenv mem is ⟨ls, .i32 (op.apply a b) :: st⟩).plus 1 := by
  rw [evals]; rfl

@[simp] theorem evals_i64ExtendI32U (a : BitVec 32) :
    evals kenv mem (.op .i64ExtendI32U :: is) ⟨ls, .i32 a :: st⟩ =
      (evals kenv mem is ⟨ls, .i64 (a.setWidth 64) :: st⟩).plus 1 := by
  rw [evals]; rfl

@[simp] theorem evals_i64Or (a b : BitVec 64) :
    evals kenv mem (.op .i64Or :: is) ⟨ls, .i64 b :: .i64 a :: st⟩ =
      (evals kenv mem is ⟨ls, .i64 (a ||| b) :: st⟩).plus 1 := by
  rw [evals]; rfl

@[simp] theorem evals_br (l : ℕ) : evals kenv mem (.br l :: is) fr = some (.br l fr, 1) := by
  rw [evals]; rfl

@[simp] theorem evals_ret : evals kenv mem (.ret :: is) fr = some (.ret fr, 0) := by
  rw [evals]; rfl

@[simp] theorem evals_brIf (l : ℕ) (v : BitVec 32) :
    evals kenv mem (.brIf l :: is) ⟨ls, .i32 v :: st⟩ =
      if v ≠ 0 then some (.br l ⟨ls, st⟩, 1) else (evals kenv mem is ⟨ls, st⟩).plus 1 := by
  simp only [evals, eval]
  split_ifs <;> rfl

/-- A conditional without an `else` whose condition fails. -/
theorem evals_if_zero {thn : List Instr} {v : BitVec 32} (hv : v = 0) :
    evals kenv mem (.ifElse thn [] :: is) ⟨ls, .i32 v :: st⟩ =
      (evals kenv mem is ⟨ls, st⟩).plus 1 := by
  simp [evals, eval, hv, Known.andThen, leave]

/-- A conditional whose condition holds and whose branch is left for an outer label. -/
theorem evals_if_br {thn els : List Instr} {v : BitVec 32} {l c : ℕ} (hv : v ≠ 0)
    (h : evals kenv mem thn ⟨ls, []⟩ = some (.br (l + 1) fr, c)) :
    evals kenv mem (.ifElse thn els :: is) ⟨ls, .i32 v :: st⟩ = some (.br l fr, 1 + c) := by
  simp only [evals, eval, if_pos hv, h]
  rfl

/-- A conditional whose condition holds and whose branch falls through. -/
theorem evals_if_next {thn els : List Instr} {v : BitVec 32} {c : ℕ} (hv : v ≠ 0)
    (h : evals kenv mem thn ⟨ls, []⟩ = some (.next fr, c)) :
    evals kenv mem (.ifElse thn els :: is) ⟨ls, .i32 v :: st⟩ =
      (evals kenv mem is { fr with stack := st }).plus (1 + c) := by
  simp only [evals, eval, if_pos hv, h]
  rfl

/-- A conditional whose condition holds and whose branch returns. -/
theorem evals_if_ret {thn els : List Instr} {v : BitVec 32} {c : ℕ} (hv : v ≠ 0)
    (h : evals kenv mem thn ⟨ls, []⟩ = some (.ret fr, c)) :
    evals kenv mem (.ifElse thn els :: is) ⟨ls, .i32 v :: st⟩ = some (.ret fr, 1 + c) := by
  simp only [evals, eval, if_pos hv, h]
  rfl

end Symbolic

theorem evals_append (kenv : KnownEnv) (mem : Memory) (is js : List Instr) (fr : Frame) :
    evals kenv mem (is ++ js) fr =
      (evals kenv mem is fr).andThen fun o =>
        match o with
        | .next fr => evals kenv mem js fr
        | o => some (o, 0) := by
  induction is generalizing fr with
  | nil => cases h : evals kenv mem js fr <;> simp [evals, Known.andThen, Known.plus, h]
  | cons i is ih =>
    simp only [List.cons_append, evals]
    cases eval kenv mem i fr with
    | none => rfl
    | some q =>
      obtain ⟨o, c⟩ := q
      cases o with
      | next fr' =>
        simp only [Known.andThen, ih, Known.plus]
        cases evals kenv mem is fr' with
        | none => rfl
        | some q =>
          simp only [Option.map_some]
          generalize (match q.1 with
            | .next fr => evals kenv mem js fr
            | o => some (o, 0)) = r
          cases r <;> simp [Nat.add_assoc]
      | br l fr' => rfl
      | ret fr' => rfl
      | trap t => rfl

/-- Code after a fragment that falls through. -/
theorem evals_append_next {kenv : KnownEnv} {mem : Memory} {is js : List Instr} {fr fr' : Frame}
    {c : ℕ} (h : evals kenv mem is fr = some (.next fr', c)) :
    evals kenv mem (is ++ js) fr = (evals kenv mem js fr').plus c := by
  rw [evals_append, h]
  rfl

/-- Code after a fragment that branches is not reached. -/
theorem evals_append_br {kenv : KnownEnv} {mem : Memory} {is js : List Instr} {fr fr' : Frame}
    {l c : ℕ} (h : evals kenv mem is fr = some (.br l fr', c)) :
    evals kenv mem (is ++ js) fr = some (.br l fr', c) := by
  rw [evals_append, h]
  rfl

/-- Code after a fragment that returns is not reached. -/
theorem evals_append_ret {kenv : KnownEnv} {mem : Memory} {is js : List Instr} {fr fr' : Frame}
    {c : ℕ} (h : evals kenv mem is fr = some (.ret fr', c)) :
    evals kenv mem (is ++ js) fr = some (.ret fr', c) := by
  rw [evals_append, h]
  rfl

theorem execs_append (env : Env) (mem : Memory) (is js : List Instr) (fr : Frame) :
    execs env mem (is ++ js) fr = thenRun (execs env mem is fr) (execs env mem js) := by
  induction is generalizing fr with
  | nil => rfl
  | cons i is ih =>
    simp only [List.cons_append, execs, thenRun]
    funext f
    simp only [andThen]
    cases exec env mem i fr f with
    | none => rfl
    | some p =>
      obtain ⟨o, f'⟩ := p
      cases o with
      | next fr' => simp only [ih, thenRun, andThen]
      | br l fr' => rfl
      | ret fr' => rfl
      | trap t => rfl

section Sequencing

variable {env : Env} {mem : Memory} {i : Instr} {is js : List Instr} {fr fr' : Frame} {c c' : ℕ}
  {o : Outcome}

/-- Code after a fragment that falls through. -/
theorem costs_append (h : Costs (execs env mem is fr) c (.next fr'))
    (hs : Costs (execs env mem js fr') c' o) : Costs (execs env mem (is ++ js) fr) (c + c') o := by
  simpa only [execs_append] using costs_thenRun (k := execs env mem js) h hs

/-- Code after a fragment that returns is not reached. -/
theorem costs_append_ret (h : Costs (execs env mem is fr) c (.ret fr')) :
    Costs (execs env mem (is ++ js) fr) c (.ret fr') := by
  rw [execs_append, ← Nat.add_zero c]
  exact costs_thenRun h (costs_done _)

/-- A single instruction. -/
theorem costs_singleton (h : Costs (exec env mem i fr) c o) : Costs (execs env mem [i] fr) c o := by
  rw [execs, ← Nat.add_zero c]
  refine costs_thenRun h ?_
  cases o with
  | next fr' => exact costs_done _
  | br l fr' => exact costs_done _
  | ret fr' => exact costs_done _
  | trap t => exact costs_done _

/-- A call of a function whose body has a known cost. -/
theorem costs_enter {fn : Func} {args : List Val}
    (h : Costs (execs env mem fn.body ⟨args ++ fn.locals, []⟩) c o) :
    Costs (fn.enter env mem args) (1 + c) (results o) := by
  simpa [Func.enter] using costs_tick 1 (costs_andThen (k := fun o => done (results o)) h
    (costs_done _))

end Sequencing

end Wasm
