import OoBot.Lib.Wasm

/-!
# The guest module of `src/sandbox/host.rs`

`GUEST_WAT`, function by function and instruction by instruction.  The locals of `analyze` keep
their names; labels are de Bruijn indices, so inside the loop `$loop` is the label `0` outside of
any `if`, `1` inside one `if`, `2` inside two, and `$done` is the label after `$loop`.

The blocks for hiragana `おお` (`E3 81 8A E3 81 8A`) and katakana `オオ` (`E3 82 AA E3 82 AA`) differ
in two bytes; `kanaTest` is both of them.
-/

namespace OoBot.Guest

open Wasm Instr

/-! ### Helper functions -/

/-- `(func (export "abi_version"))`. -/
def abiVersion : Func where
  params := 0
  locals := []
  body := [i32Const 1]

/-- `(func $is_ascii_o)`. -/
def isAsciiO : Func where
  params := 1
  locals := []
  body := [localGet 0, i32Const 111, i32Eq, localGet 0, i32Const 79, i32Eq, i32Or]

/-- `(func $byte)`. -/
def byte : Func where
  params := 1
  locals := []
  body := [localGet 0, i32Load8U]

/-- The functions before `analyze`; `$is_ascii_o` has index `1` and `$byte` index `2`. -/
def helpers : List Func := [abiVersion, isAsciiO, byte]

/-! ### `analyze` -/

/-- `$ptr`. -/
abbrev ptr : ℕ := 0
/-- `$len`. -/
abbrev len : ℕ := 1
/-- `$kanji_count`. -/
abbrev kanjiCount : ℕ := 2
/-- `$special_hit`. -/
abbrev specialHit : ℕ := 3
/-- `$i`. -/
abbrev i : ℕ := 4
/-- `$count`. -/
abbrev count : ℕ := 5
/-- `$b0`. -/
abbrev b0 : ℕ := 6
/-- `$b1`. -/
abbrev b1 : ℕ := 7

/-- The sentinel for extreme payloads. -/
def sentinel : List Instr :=
  [localGet len, i32Const 32768, i32GtS,
    ifElse [i64Const 17179869184, ret] []]

/-- The exit test of the loop. -/
def loopHead : List Instr :=
  [localGet i, localGet len, i32Const 1, i32Sub, i32GeS, brIf 1]

/-- Loading `$b0` and `$b1`. -/
def loadPair : List Instr :=
  [localGet ptr, localGet i, i32Add, call 2, localSet b0,
    localGet ptr, localGet i, i32Add, i32Const 1, i32Add, call 2, localSet b1]

/-- Counting a hit, moving on by `n` bytes and branching to `$loop`. -/
def hitBy (n : BitVec 32) (loopLabel : ℕ) : List Instr :=
  [localGet count, i32Const 1, i32Add, localSet count,
    localGet i, i32Const n, i32Add, localSet i, br loopLabel]

/-- ASCII `oo` in any case. -/
def asciiTest : List Instr :=
  [localGet b0, call 1, localGet b1, call 1, i32And,
    ifElse (hitBy 2 1) []]

/-- Comparing the byte at `$ptr + $i + k` with `v`, and with what was found so far. -/
def andByte (k v : BitVec 32) : List Instr :=
  [localGet ptr, localGet i, i32Add, i32Const k, i32Add, call 2, i32Const v, i32Eq, i32And]

/-- Comparing six bytes with `E3 mid last E3 mid last`. -/
def kanaMatch (mid last : BitVec 32) : List Instr :=
  [localGet b0, i32Const 227, i32Eq, localGet b1, i32Const mid, i32Eq, i32And] ++
    andByte 2 last ++ andByte 3 227 ++ andByte 4 mid ++ andByte 5 last

/-- A doubled kana, when at least six bytes are left. -/
def kanaTest (mid last : BitVec 32) : List Instr :=
  [localGet i, i32Const 5, i32Add, localGet len, i32LtS,
    ifElse (kanaMatch mid last ++ [ifElse (hitBy 6 2) []]) []]

/-- Moving on by one byte. -/
def advance : List Instr :=
  [localGet i, i32Const 1, i32Add, localSet i, br 0]

/-- The body of `$loop`. -/
def loopBody : List Instr :=
  loopHead ++ loadPair ++ asciiTest ++ kanaTest 129 138 ++ kanaTest 130 170 ++ advance

/-- Adding `$kanji_count` to `$count`. -/
def addKanji : List Instr :=
  [localGet count, localGet kanjiCount, i32Add, localSet count]

/-- The special phrase comes first. -/
def specialTest : List Instr :=
  [localGet specialHit, i32Const 0, i32Ne,
    ifElse [i64Const 12884901889, ret] []]

/-- No hit at all. -/
def zeroTest : List Instr :=
  [localGet count, i32Const 0, i32LeS,
    ifElse [i64Const 0, ret] []]

/-- A single hit. -/
def oneTest : List Instr :=
  [localGet count, i32Const 1, i32Eq,
    ifElse [i64Const 4294967297, ret] []]

/-- Capping `$count` at what fits in a byte. -/
def clamp : List Instr :=
  [localGet count, i32Const 255, i32GtS,
    ifElse [i32Const 255, localSet count] []]

/-- The wire value for `$count` stamps. -/
def sendCount : List Instr :=
  [i64Const 8589934592, localGet count, i64ExtendI32U, i64Or]

/-- The proposal for `$count` and the flags, after the loop. -/
def finish : List Instr :=
  addKanji ++ specialTest ++ zeroTest ++ oneTest ++ clamp ++ sendCount

/-- `(func (export "analyze"))`. -/
def analyze : Func where
  params := 4
  locals := [.i32 0, .i32 0, .i32 0, .i32 0]
  body := sentinel ++ [block [loop loopBody]] ++ finish

end OoBot.Guest
