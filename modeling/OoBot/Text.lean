import Mathlib.Data.List.DropRight
import Mathlib.Data.List.Infix
import Mathlib.Tactic.Common

/-!
# Rust strings

A Rust `str` is a sequence of Unicode scalar values stored in UTF-8; a Lean `Char` is a Unicode
scalar value, so a `str` is modelled by `Text = List Char` and its bytes by `utf8`.  The string
methods the bot uses follow the documentation of `std`:

* `utf8`, `fromUtf8`, `utf8Len` (`as_bytes`, `from_utf8`, `len`), `isAscii`, `toAsciiLowercase`;
* `contains`, `replace` (for a non-empty needle), `trim` (by the `White_Space` property),
  `isControl` (general category `Cc`).

The second half is about the encoding: it is a prefix code (`utf8EncodeChar_prefixFree`), and every
byte of a character after the first is a continuation byte (`utf8EncodeChar_lead`).
-/

namespace OoBot

/-- A Rust `str`. -/
abbrev Text := List Char

/-- `str::as_bytes`. -/
def utf8 (s : Text) : List UInt8 := s.flatMap String.utf8EncodeChar

/-- `str::from_utf8`. -/
def fromUtf8 (bytes : List UInt8) : Option Text := bytes.toByteArray.utf8Decode?.map Array.toList

/-- `str::len`: the number of bytes. -/
def utf8Len (s : Text) : ℕ := (utf8 s).length

/-- `str::is_ascii`. -/
def isAscii (s : Text) : Bool := s.all fun c => c.toNat < 128

/-- `str::to_ascii_lowercase`. -/
def toAsciiLowercase (s : Text) : Text := s.map Char.toLower

/-- `str::contains` with a string pattern. -/
def contains (s needle : Text) : Bool := decide (needle <:+: s)

/-- The characters with the Unicode property `White_Space` (`char::is_whitespace`). -/
def isWhitespace (c : Char) : Bool :=
  let n := c.toNat
  (0x09 ≤ n && n ≤ 0x0D) || n == 0x20 || n == 0x85 || n == 0xA0 || n == 0x1680 ||
    (0x2000 ≤ n && n ≤ 0x200A) || n == 0x2028 || n == 0x2029 || n == 0x202F || n == 0x205F ||
    n == 0x3000

/-- `str::trim`. -/
def trim (s : Text) : Text := (s.dropWhile isWhitespace).rdropWhile isWhitespace

/-- `char::is_control`: the general category `Cc`. -/
def isControl (c : Char) : Bool := c.toNat < 0x20 || (0x7F ≤ c.toNat && c.toNat ≤ 0x9F)

/-- `str::replace` after `skip` more characters of the last match have been passed over. -/
def replaceFrom (needle value : Text) : ℕ → Text → Text
  | _, [] => []
  | skip + 1, _ :: s => replaceFrom needle value skip s
  | 0, c :: s =>
      if needle <+: c :: s then value ++ replaceFrom needle value (needle.length - 1) s
      else c :: replaceFrom needle value 0 s

/-- `str::replace` for a non-empty needle: all non-overlapping matches, left to right. -/
def replace (s needle value : Text) : Text := replaceFrom needle value 0 s

/-- `usize::to_string`. -/
def natText (n : ℕ) : Text := Nat.toDigits 10 n

/-! ### Replacing -/

/-- A text without the needle is left alone. -/
theorem replace_of_not_infix {s needle : Text} (value : Text) (h : ¬ needle <:+: s) :
    replace s needle value = s := by
  unfold replace
  induction s with
  | nil => rfl
  | cons c s ih =>
    rw [List.infix_cons_iff, not_or] at h
    rw [replaceFrom, if_neg h.1, ih h.2]

/-! ### Lowercase -/

theorem toLower_toNat (c : Char) :
    c.toLower.toNat = if 65 ≤ c.toNat ∧ c.toNat ≤ 90 then c.toNat + 32 else c.toNat := by
  have hc : (c.val ≥ 'A'.val ∧ c.val ≤ 'Z'.val) ↔ (65 ≤ c.toNat ∧ c.toNat ≤ 90) := by
    simp only [ge_iff_le, UInt32.le_iff_toNat_le]
    rfl
  unfold Char.toLower
  by_cases h : 65 ≤ c.toNat ∧ c.toNat ≤ 90
  · rw [dif_pos (hc.2 h), if_pos h]
    show (c.val + ('a'.val - 'A'.val)).toNat = _
    rw [UInt32.toNat_add]
    show (c.toNat + 32) % _ = _
    omega
  · rw [dif_neg (mt hc.1 h), if_neg h]

theorem toLower_toLower (c : Char) : c.toLower.toLower = c.toLower := by
  rw [← Char.toNat_inj, toLower_toNat c.toLower, toLower_toNat c]
  split_ifs <;> omega

@[simp] theorem toAsciiLowercase_idem (s : Text) :
    toAsciiLowercase (toAsciiLowercase s) = toAsciiLowercase s := by
  unfold toAsciiLowercase
  rw [List.map_map]
  exact List.map_congr_left fun c _ => toLower_toLower c

theorem isAscii_toAsciiLowercase (s : Text) : isAscii (toAsciiLowercase s) = isAscii s := by
  have hc (c : Char) : decide (c.toLower.toNat < 128) = decide (c.toNat < 128) := by
    rw [toLower_toNat]
    split_ifs <;> simp only [decide_eq_decide]
    omega
  simp [isAscii, toAsciiLowercase, List.all_map, Function.comp_def, hc]

/-! ### Trimming -/

/-- Printable ASCII after the blank and the punctuation has no white space. -/
theorem isWhitespace_eq_false {c : Char} (h : 0x30 ≤ c.toNat) (h' : c.toNat < 0x80) :
    isWhitespace c = false := by
  unfold isWhitespace
  simp only [Bool.or_eq_false_iff, Bool.and_eq_false_iff, decide_eq_false_iff_not, beq_eq_false_iff_ne,
    ne_eq]
  omega

/-- One white-space character is taken off a text without any. -/
theorem trim_append_singleton {s : Text} {c : Char} (hs : ∀ d ∈ s, isWhitespace d = false)
    (hc : isWhitespace c = true) : trim (s ++ [c]) = s := by
  have hdrop : (s ++ [c]).dropWhile isWhitespace = if s = [] then [] else s ++ [c] := by
    cases s with
    | nil => simp [hc]
    | cons d s => simp [hs d List.mem_cons_self]
  unfold trim
  rw [hdrop]
  split_ifs with hnil
  · rw [hnil]
    rfl
  · rw [List.rdropWhile_concat_pos _ _ _ hc, List.rdropWhile_eq_self_iff]
    intro hne
    rw [hs _ (List.getLast_mem hne)]
    simp

/-! ### Bytes of a text -/

@[simp] theorem utf8_nil : utf8 [] = [] := rfl

@[simp] theorem utf8_cons (c : Char) (s : Text) : utf8 (c :: s) = String.utf8EncodeChar c ++ utf8 s :=
  rfl

@[simp] theorem utf8_append (s t : Text) : utf8 (s ++ t) = utf8 s ++ utf8 t := by
  simp [utf8]

/-- A text is read back from its bytes. -/
theorem fromUtf8_utf8 (s : Text) : fromUtf8 (utf8 s) = some s := by
  have hencode : (utf8 s).toByteArray = s.utf8Encode := rfl
  rw [fromUtf8, hencode, List.utf8Decode?_utf8Encode]
  rfl

/-- What is read has these bytes. -/
theorem utf8_of_fromUtf8 {bytes : List UInt8} {s : Text} (h : fromUtf8 bytes = some s) :
    utf8 s = bytes := by
  obtain ⟨chars, hchars, rfl⟩ := Option.map_eq_some_iff.1 h
  have hencode : (utf8 chars.toList).toByteArray = bytes.toByteArray := by
    have hget := @ByteArray.utf8Encode_get_utf8Decode? bytes.toByteArray (by rw [hchars]; rfl)
    simp only [hchars, Option.get_some] at hget
    exact hget
  have hdata := congrArg ByteArray.data hencode
  rw [List.data_toByteArray, List.data_toByteArray] at hdata
  exact List.toArray_inj hdata

@[simp] theorem utf8Len_nil : utf8Len [] = 0 := rfl

@[simp] theorem utf8Len_cons (c : Char) (s : Text) : utf8Len (c :: s) = c.utf8Size + utf8Len s := by
  simp [utf8Len]

theorem utf8_length (s : Text) : (utf8 s).length = utf8Len s := rfl

/-- A character takes at most four bytes. -/
theorem utf8Len_le (s : Text) : utf8Len s ≤ 4 * s.length := by
  induction s with
  | nil => simp
  | cons c s ih =>
    have := c.utf8Size_le_four
    simp only [utf8Len_cons, List.length_cons]
    omega

theorem length_le_utf8Len (s : Text) : s.length ≤ utf8Len s := by
  induction s with
  | nil => simp
  | cons c s ih =>
    have := c.utf8Size_pos
    simp only [utf8Len_cons, List.length_cons]
    omega

/-! ### The encoding is a prefix code -/

/-- Two characters whose encodings start the same bytes are equal. -/
theorem utf8EncodeChar_append_inj {c d : Char} {r s : List UInt8}
    (h : String.utf8EncodeChar c ++ r = String.utf8EncodeChar d ++ s) : c = d := by
  have hc := ByteArray.utf8DecodeChar?_utf8EncodeChar_append (c := c) (b := r.toByteArray)
  have hd := ByteArray.utf8DecodeChar?_utf8EncodeChar_append (c := d) (b := s.toByteArray)
  rw [← List.toByteArray_append, h, List.toByteArray_append] at hc
  exact Option.some.inj (hc.symm.trans hd)

theorem utf8EncodeChar_prefixFree {c d : Char} {r : List UInt8}
    (h : String.utf8EncodeChar c <+: String.utf8EncodeChar d ++ r) : c = d := by
  obtain ⟨s, hs⟩ := h
  exact utf8EncodeChar_append_inj hs

/-- A text is a prefix of another when its bytes are. -/
theorem utf8_prefix_iff (s t : Text) : utf8 s <+: utf8 t ↔ s <+: t := by
  constructor
  · intro h
    induction s generalizing t with
    | nil => exact List.nil_prefix
    | cons c s ih =>
      cases t with
      | nil =>
        have := String.utf8EncodeChar_ne_nil (c := c)
        simp [this] at h
      | cons d t =>
        rw [utf8_cons, utf8_cons] at h
        have hcd : c = d := utf8EncodeChar_prefixFree ((List.prefix_append _ _).trans h)
        subst hcd
        exact List.cons_prefix_cons.2 ⟨rfl, ih t ((List.prefix_append_right_inj _).1 h)⟩
  · rintro ⟨r, rfl⟩
    simp

theorem utf8_injective {s t : Text} (h : utf8 s = utf8 t) : s = t := by
  have hst : s <+: t := (utf8_prefix_iff s t).1 (by rw [h])
  have hts : t <+: s := (utf8_prefix_iff t s).1 (by rw [h])
  exact hst.eq_of_length (Nat.le_antisymm hst.length_le hts.length_le)

/-! ### Bytes of one character -/

/-- A UTF-8 continuation byte. -/
def isCont (b : UInt8) : Bool := 0x80 ≤ b && b < 0xC0

theorem utf8EncodeChar_ascii {c : Char} (h : c.toNat < 128) :
    String.utf8EncodeChar c = [UInt8.ofNat c.toNat] := by
  unfold String.utf8EncodeChar
  rw [if_pos (by show c.toNat ≤ 127; omega)]
  rfl

theorem utf8Len_of_isAscii {s : Text} (h : isAscii s) : utf8Len s = s.length := by
  induction s with
  | nil => rfl
  | cons c s ih =>
    obtain ⟨hc, hs⟩ : c.toNat < 128 ∧ isAscii s := by simpa [isAscii] using h
    have hone : c.utf8Size = 1 := by
      rw [← String.length_utf8EncodeChar, utf8EncodeChar_ascii hc]
      rfl
    rw [utf8Len_cons, hone, ih hs, List.length_cons, Nat.add_comm]

theorem isCont_ofNat (n : ℕ) : isCont (UInt8.ofNat (n % 64 + 128)) = true := by
  have h : n % 64 < 64 := Nat.mod_lt _ (by decide)
  generalize n % 64 = m at h
  simp only [isCont, Bool.and_eq_true, decide_eq_true_eq, UInt8.le_iff_toNat_le,
    UInt8.lt_iff_toNat_lt, UInt8.toNat_ofNat']
  constructor
  · show 128 ≤ (m + 128) % 256
    omega
  · show (m + 128) % 256 < 192
    omega

/-- The bytes of a character outside ASCII: a lead byte, then continuation bytes. -/
theorem utf8EncodeChar_shape {c : Char} (h : 128 ≤ c.toNat) :
    ∃ b tl, String.utf8EncodeChar c = b :: tl ∧ 0xC0 ≤ b.toNat ∧ ∀ x ∈ tl, isCont x = true := by
  have hv : ¬ c.val.toNat ≤ 127 := by show ¬ c.toNat ≤ 127; omega
  unfold String.utf8EncodeChar
  generalize c.val.toNat = v at hv
  have lead : ∀ m k, 0xC0 ≤ k → m < 32 → m + k < 256 → 0xC0 ≤ (UInt8.ofNat (m + k)).toNat := by
    intro m k hk hm hlt
    rw [UInt8.toNat_ofNat', Nat.mod_eq_of_lt hlt]
    omega
  simp only [if_neg hv]
  split_ifs with h2 h3
  · refine ⟨UInt8.ofNat (v / 64 % 32 + 192), [UInt8.ofNat (v % 64 + 128)], rfl,
      lead _ _ (by omega) (by omega) (by omega), ?_⟩
    simpa only [List.forall_mem_singleton] using isCont_ofNat v
  · refine ⟨UInt8.ofNat (v / 4096 % 16 + 224),
      [UInt8.ofNat (v / 64 % 64 + 128), UInt8.ofNat (v % 64 + 128)], rfl,
      lead _ _ (by omega) (by omega) (by omega), ?_⟩
    simpa only [List.forall_mem_cons, List.not_mem_nil, false_imp_iff, implies_true, and_true]
      using ⟨isCont_ofNat (v / 64), isCont_ofNat v⟩
  · refine ⟨UInt8.ofNat (v / 262144 % 8 + 240),
      [UInt8.ofNat (v / 4096 % 64 + 128), UInt8.ofNat (v / 64 % 64 + 128),
        UInt8.ofNat (v % 64 + 128)], rfl,
      lead _ _ (by omega) (by omega) (by omega), ?_⟩
    simpa only [List.forall_mem_cons, List.not_mem_nil, false_imp_iff, implies_true, and_true]
      using ⟨isCont_ofNat (v / 4096), isCont_ofNat (v / 64), isCont_ofNat v⟩

/-- The first byte of a character, and only that, is not a continuation byte. -/
theorem utf8EncodeChar_lead (c : Char) :
    ∃ b tl, String.utf8EncodeChar c = b :: tl ∧ isCont b = false ∧ ∀ x ∈ tl, isCont x = true := by
  by_cases h : c.toNat < 128
  · refine ⟨_, [], utf8EncodeChar_ascii h, ?_, by simp⟩
    have hb : ¬ 0x80 ≤ (UInt8.ofNat c.toNat).toNat := by
      rw [UInt8.toNat_ofNat', Nat.mod_eq_of_lt (by omega)]
      omega
    simp only [isCont, UInt8.le_iff_toNat_le, Bool.and_eq_false_iff, decide_eq_false_iff_not]
    exact Or.inl hb
  · obtain ⟨b, tl, henc, hb, htl⟩ := utf8EncodeChar_shape (Nat.le_of_not_lt h)
    refine ⟨b, tl, henc, ?_, htl⟩
    simp only [isCont, UInt8.lt_iff_toNat_lt, Bool.and_eq_false_iff, decide_eq_false_iff_not]
    exact Or.inr (Nat.not_lt.2 hb)

/-- Only a newline has the byte of a newline. -/
theorem newline_mem_utf8 {s : Text} (h : (10 : UInt8) ∈ utf8 s) : '\n' ∈ s := by
  obtain ⟨c, hc, hbyte⟩ := List.mem_flatMap.1 h
  by_cases hascii : c.toNat < 128
  · rw [utf8EncodeChar_ascii hascii, List.mem_singleton] at hbyte
    have hcode : c.toNat = 10 := by
      have hnat := congrArg UInt8.toNat hbyte
      rw [UInt8.toNat_ofNat', Nat.mod_eq_of_lt (by omega)] at hnat
      exact hnat.symm
    have hnewline : c = '\n' := by rw [← Char.ofNat_toNat c, hcode]
    exact hnewline ▸ hc
  · -- the bytes of other characters have their highest bit set
    obtain ⟨b, tl, henc, hb, htl⟩ := utf8EncodeChar_shape (Nat.le_of_not_lt hascii)
    rw [henc] at hbyte
    rcases List.mem_cons.1 hbyte with rfl | htail
    · exact absurd hb (by decide)
    · exact absurd (htl _ htail) (by decide)

end OoBot
