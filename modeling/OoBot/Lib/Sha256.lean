import Mathlib.Tactic.Common

/-!
# SHA-256

The digest of FIPS 180-4, as lowercase hexadecimal text, and HMAC over it.  Words are natural numbers
below `2 ^ 32`, so that digests can be evaluated in proofs.
-/

namespace Sha256

/-! ### Words -/

/-- The constants of the rounds. -/
def roundConstants : List ℕ :=
  [0x428a2f98, 0x71374491, 0xb5c0fbcf, 0xe9b5dba5, 0x3956c25b, 0x59f111f1, 0x923f82a4, 0xab1c5ed5,
   0xd807aa98, 0x12835b01, 0x243185be, 0x550c7dc3, 0x72be5d74, 0x80deb1fe, 0x9bdc06a7, 0xc19bf174,
   0xe49b69c1, 0xefbe4786, 0x0fc19dc6, 0x240ca1cc, 0x2de92c6f, 0x4a7484aa, 0x5cb0a9dc, 0x76f988da,
   0x983e5152, 0xa831c66d, 0xb00327c8, 0xbf597fc7, 0xc6e00bf3, 0xd5a79147, 0x06ca6351, 0x14292967,
   0x27b70a85, 0x2e1b2138, 0x4d2c6dfc, 0x53380d13, 0x650a7354, 0x766a0abb, 0x81c2c92e, 0x92722c85,
   0xa2bfe8a1, 0xa81a664b, 0xc24b8b70, 0xc76c51a3, 0xd192e819, 0xd6990624, 0xf40e3585, 0x106aa070,
   0x19a4c116, 0x1e376c08, 0x2748774c, 0x34b0bcb5, 0x391c0cb3, 0x4ed8aa4a, 0x5b9cca4f, 0x682e6ff3,
   0x748f82ee, 0x78a5636f, 0x84c87814, 0x8cc70208, 0x90befffa, 0xa4506ceb, 0xbef9a3f7, 0xc67178f2]

/-- Addition modulo `2 ^ 32`. -/
def add32 (x y : ℕ) : ℕ := (x + y) % 4294967296

/-- Rotation to the right by `n < 32`. -/
def rotr (x n : ℕ) : ℕ := (x >>> n) ||| ((x <<< (32 - n)) % 4294967296)

/-- The words of a message, high byte first. -/
def words : List UInt8 → List ℕ
  | a :: b :: c :: d :: rest =>
      (((a.toNat * 256 + b.toNat) * 256 + c.toNat) * 256 + d.toNat) :: words rest
  | _ => []

/-- The last `k` bytes of a number, high byte first. -/
def bigEndian (n : ℕ) : ℕ → List UInt8
  | 0 => []
  | k + 1 => UInt8.ofNat (n >>> (8 * k)) :: bigEndian n k

/-- The first `k` blocks of 16 words. -/
def blocks : ℕ → List ℕ → List (List ℕ)
  | 0, _ => []
  | k + 1, l => l.take 16 :: blocks k (l.drop 16)

/-! ### Compression -/

/-- The message schedule, latest word first, extended by `n` words. -/
def schedule : ℕ → List ℕ → List ℕ
  | 0, w => w
  | n + 1, w =>
      let w₁₅ := w.getD 14 0
      let w₂ := w.getD 1 0
      let s₀ := rotr w₁₅ 7 ^^^ rotr w₁₅ 18 ^^^ (w₁₅ >>> 3)
      let s₁ := rotr w₂ 17 ^^^ rotr w₂ 19 ^^^ (w₂ >>> 10)
      schedule n ((w.getD 15 0 + s₀ + w.getD 6 0 + s₁) % 4294967296 :: w)

/-- The eight words of the state. -/
structure State where
  a : ℕ
  b : ℕ
  c : ℕ
  d : ℕ
  e : ℕ
  f : ℕ
  g : ℕ
  h : ℕ

/-- The state before the first block. -/
def State.initial : State :=
  ⟨0x6a09e667, 0xbb67ae85, 0x3c6ef372, 0xa54ff53a, 0x510e527f, 0x9b05688c, 0x1f83d9ab, 0x5be0cd19⟩

/-- One round, with the constant and the word of the schedule. -/
def State.round (s : State) (kw : ℕ × ℕ) : State :=
  let s₁ := rotr s.e 6 ^^^ rotr s.e 11 ^^^ rotr s.e 25
  let ch := (s.e &&& s.f) ^^^ ((4294967295 ^^^ s.e) &&& s.g)
  let t₁ := s.h + s₁ + ch + kw.1 + kw.2
  let s₀ := rotr s.a 2 ^^^ rotr s.a 13 ^^^ rotr s.a 22
  let maj := (s.a &&& s.b) ^^^ (s.a &&& s.c) ^^^ (s.b &&& s.c)
  ⟨add32 t₁ (s₀ + maj), s.a, s.b, s.c, add32 s.d t₁, s.e, s.f, s.g⟩

/-- The state after a block. -/
def State.compress (s : State) (block : List ℕ) : State :=
  let r := (roundConstants.zip (schedule 48 block.reverse).reverse).foldl State.round s
  ⟨add32 s.a r.a, add32 s.b r.b, add32 s.c r.c, add32 s.d r.d, add32 s.e r.e, add32 s.f r.f,
    add32 s.g r.g, add32 s.h r.h⟩

/-! ### Digests -/

/-- Padding to a multiple of 64 bytes. -/
def pad (m : List UInt8) : List UInt8 :=
  m ++ [0x80] ++ List.replicate ((119 - m.length % 64) % 64) 0 ++ bigEndian (8 * m.length) 8

/-- The words of the digest. -/
def digestWords (m : List UInt8) : List ℕ :=
  let w := words (pad m)
  let s := (blocks (w.length / 16) w).foldl State.compress State.initial
  [s.a, s.b, s.c, s.d, s.e, s.f, s.g, s.h]

/-- The bytes of the digest. -/
def digest (m : List UInt8) : List UInt8 := (digestWords m).flatMap fun w => bigEndian w 4

/-- A lowercase hexadecimal digit. -/
def hexDigit (n : ℕ) : Char := if n % 16 < 10 then Char.ofNat (48 + n % 16) else Char.ofNat (87 + n % 16)

/-- Bytes as lowercase hexadecimal text. -/
def hex (bytes : List UInt8) : List Char :=
  bytes.flatMap fun b => [hexDigit (b.toNat / 16), hexDigit b.toNat]

/-- The digest as text. -/
def hexDigest (m : List UInt8) : List Char := hex (digest m)

/-- The value of a hexadecimal digit, of either case. -/
def hexValue (c : Char) : Option ℕ :=
  if '0' ≤ c ∧ c ≤ '9' then some (c.toNat - 48)
  else if 'a' ≤ c ∧ c ≤ 'f' then some (c.toNat - 87)
  else if 'A' ≤ c ∧ c ≤ 'F' then some (c.toNat - 55)
  else none

/-- The bytes of a hexadecimal text. -/
def unhex : List Char → Option (List UInt8)
  | [] => some []
  | [_] => none
  | c :: d :: s => do
      let high ← hexValue c
      let low ← hexValue d
      let bytes ← unhex s
      pure (UInt8.ofNat (16 * high + low) :: bytes)

/-- HMAC. -/
def hmac (key m : List UInt8) : List UInt8 :=
  let short := if key.length > 64 then digest key else key
  let block := short ++ List.replicate (64 - short.length) 0
  digest ((block.map fun b => b ^^^ 0x5c) ++ digest ((block.map fun b => b ^^^ 0x36) ++ m))

/-! ### The form of a digest -/

/-- A lowercase hexadecimal digit. -/
def IsHexDigit (c : Char) : Prop := ('0' ≤ c ∧ c ≤ '9') ∨ ('a' ≤ c ∧ c ≤ 'f')

instance (c : Char) : Decidable (IsHexDigit c) := by
  unfold IsHexDigit
  infer_instance

theorem hexDigit_mod (n : ℕ) : hexDigit (n % 16) = hexDigit n := by
  unfold hexDigit
  rw [Nat.mod_mod]

theorem isHexDigit_hexDigit (n : ℕ) : IsHexDigit (hexDigit n) := by
  have all : ∀ k : Fin 16, IsHexDigit (hexDigit k) := by decide
  rw [← hexDigit_mod]
  exact all ⟨n % 16, Nat.mod_lt n (by decide)⟩

theorem hexValue_hexDigit (n : ℕ) : hexValue (hexDigit n) = some (n % 16) := by
  have all : ∀ k : Fin 16, hexValue (hexDigit k) = some k.val := by decide
  rw [← hexDigit_mod]
  exact all ⟨n % 16, Nat.mod_lt n (by decide)⟩

/-- Bytes are read back from their text. -/
theorem unhex_hex (bytes : List UInt8) : unhex (hex bytes) = some bytes := by
  induction bytes with
  | nil => rfl
  | cons b bytes ih =>
    have hcons : hex (b :: bytes) = hexDigit (b.toNat / 16) :: hexDigit b.toNat :: hex bytes := rfl
    have hhigh : b.toNat / 16 % 16 = b.toNat / 16 := by
      have := b.toNat_lt
      omega
    have hbyte : 16 * (b.toNat / 16) + b.toNat % 16 = b.toNat := Nat.div_add_mod b.toNat 16
    rw [hcons, unhex, hexValue_hexDigit, hexValue_hexDigit, ih, hhigh]
    show some (UInt8.ofNat (16 * (b.toNat / 16) + b.toNat % 16) :: bytes) = _
    rw [hbyte, UInt8.ofNat_toNat]

theorem length_bigEndian (n k : ℕ) : (bigEndian n k).length = k := by
  induction k with
  | zero => rfl
  | succ k ih => rw [bigEndian, List.length_cons, ih]

theorem length_hex (bytes : List UInt8) : (hex bytes).length = 2 * bytes.length := by
  induction bytes with
  | nil => rfl
  | cons b bytes ih =>
    have hcons : hex (b :: bytes) = hexDigit (b.toNat / 16) :: hexDigit b.toNat :: hex bytes := rfl
    rw [hcons]
    simp only [List.length_cons, ih]
    omega

/-- A digest is 64 characters long. -/
theorem length_hexDigest (m : List UInt8) : (hexDigest m).length = 64 := by
  rw [hexDigest, length_hex]
  simp [digest, digestWords, length_bigEndian]

/-- The text of bytes consists of lowercase hexadecimal digits. -/
theorem isHexDigit_of_mem_hex {bytes : List UInt8} {c : Char} (h : c ∈ hex bytes) :
    IsHexDigit c := by
  obtain ⟨b, -, hc⟩ := List.mem_flatMap.1 h
  rcases List.mem_cons.1 hc with rfl | hc
  · exact isHexDigit_hexDigit _
  · rw [List.mem_singleton.1 hc]
    exact isHexDigit_hexDigit _

example : hexDigest [97, 98, 99] =
    "ba7816bf8f01cfea414140de5dae2223b00361a396177a9cb410ff61f20015ad".toList := by
  decide +kernel

end Sha256
