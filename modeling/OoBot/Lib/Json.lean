import Mathlib.Algebra.Order.Group.Nat
import OoBot.Lib.Delimited

/-!
# JSON texts

JSON values, and how they are written without spaces.  How the characters of a string are escaped is left
open (`Escape`), as long as the escaped characters can be told apart and none of them starts with the
quotation mark.

The text of a value delimits itself before anything but a digit (`delimits_text`), so a text stands for
one value.  It holds nothing but characters of JSON and escaped ones (`written_of_mem_text`).
-/

namespace Json

open Delimited

/-- The quotation mark. -/
def quotationMark : Char := Char.ofNat 34

/-- How the characters of a string are written. -/
structure Escape where
  code : Char → List Char
  delimits : Delimits Any code
  head : ∀ c, ∃ x xs, code c = x :: xs ∧ x ≠ quotationMark

/-- A JSON value; its numbers are integers. -/
inductive Value
  | null
  | bool (b : Bool)
  | number (n : ℤ)
  | string (s : List Char)
  | array (items : List Value)
  | object (fields : List (List Char × Value))

/-! ### Writing -/

/-- The decimal digits of a number. -/
def decimal (n : ℕ) : List Char := Nat.toDigits 10 n

/-- An integer. -/
def integer (n : ℤ) : List Char := if n < 0 then '-' :: decimal n.natAbs else decimal n.natAbs

variable (esc : Escape)

/-- A string. -/
def quoted (s : List Char) : List Char := quotationMark :: s.flatMap esc.code ++ [quotationMark]

mutual

/-- A value. -/
def text : Value → List Char
  | .null => "null".toList
  | .bool b => if b then "true".toList else "false".toList
  | .number n => integer n
  | .string s => quoted esc s
  | .array [] => ['[', ']']
  | .array (item :: items) => '[' :: (text item ++ restItems items)
  | .object [] => ['{', '}']
  | .object ((key, value) :: fields) =>
      '{' :: (quoted esc key ++ ':' :: (text value ++ restFields fields))

/-- The other items of an array, and its end. -/
def restItems : List Value → List Char
  | [] => [']']
  | item :: items => ',' :: (text item ++ restItems items)

/-- The other fields of an object, and its end. -/
def restFields : List (List Char × Value) → List Char
  | [] => ['}']
  | (key, value) :: fields => ',' :: (quoted esc key ++ ':' :: (text value ++ restFields fields))

end

/-! ### Numbers -/

/-- What may be behind a number: no digit. -/
def NoDigit (r : List Char) : Prop := ∀ c rest, r = c :: rest → c.isDigit = false

theorem noDigit_nil : NoDigit [] := nofun

theorem noDigit_cons {c : Char} (h : c.isDigit = false) (r : List Char) : NoDigit (c :: r) := by
  rintro _ _ ⟨⟩
  exact h

theorem isDigit_of_mem_decimal {n : ℕ} {c : Char} (h : c ∈ decimal n) : c.isDigit = true :=
  Nat.isDigit_of_mem_toDigits (by decide) (by decide) h

theorem decimal_ne_nil (n : ℕ) : decimal n ≠ [] := Nat.toDigits_ne_nil

/-- Read the digits. -/
def readDecimal (l : List Char) : ℕ × List Char :=
  (Nat.ofDigitChars 10 (l.takeWhile Char.isDigit) 0, l.dropWhile Char.isDigit)

theorem readDecimal_decimal (n : ℕ) {r : List Char} (hr : NoDigit r) :
    readDecimal (decimal n ++ r) = (n, r) := by
  have hnone : r.takeWhile Char.isDigit = [] ∧ r.dropWhile Char.isDigit = r := by
    cases r with
    | nil => exact ⟨rfl, rfl⟩
    | cons c r =>
      have hc := hr c r rfl
      exact ⟨List.takeWhile_cons_of_neg (by simp [hc]), List.dropWhile_cons_of_neg (by simp [hc])⟩
  have hall : ∀ c ∈ decimal n, c.isDigit = true := fun c => isDigit_of_mem_decimal
  unfold readDecimal
  rw [List.takeWhile_append_of_pos hall, List.dropWhile_append_of_pos hall, hnone.1, hnone.2,
    List.append_nil]
  exact congrArg (·, r) Nat.ofDigitChars_ten_toDigits

theorem delimits_decimal : Delimits NoDigit decimal :=
  @Delimits.of_read _ _ _ _ (fun l => some (readDecimal l)) fun n _ hr =>
    congrArg some (readDecimal_decimal n hr)

theorem exists_decimal (n : ℕ) : ∃ c cs, decimal n = c :: cs ∧ c.isDigit = true := by
  obtain ⟨c, cs, hcons⟩ := List.exists_cons_of_ne_nil (decimal_ne_nil n)
  exact ⟨c, cs, hcons, isDigit_of_mem_decimal (by rw [hcons]; exact List.mem_cons_self)⟩

/-- A number without a sign does not start with one. -/
theorem decimal_append_ne (n : ℕ) (r r' : List Char) : decimal n ++ r ≠ '-' :: r' := by
  obtain ⟨c, cs, hcons, hdigit⟩ := exists_decimal n
  rw [hcons]
  rintro ⟨⟩
  exact absurd hdigit (by decide)

theorem delimits_integer : Delimits NoDigit integer := by
  intro m n r r' hr hr' heq
  unfold integer at heq
  split_ifs at heq with hm hn hn
  · obtain ⟨habs, hrest⟩ := delimits_decimal hr hr' (List.cons.inj heq).2
    exact ⟨by omega, hrest⟩
  · exact absurd heq.symm (decimal_append_ne _ _ _)
  · exact absurd heq (decimal_append_ne _ _ _)
  · obtain ⟨habs, hrest⟩ := delimits_decimal hr hr' heq
    exact ⟨by omega, hrest⟩

/-! ### Strings -/

theorem delimits_quoted : Delimits Any (quoted esc) :=
  (esc.delimits.body esc.head (fun _ => trivial) fun _ _ => trivial).front [quotationMark]

/-! ### Values -/

/-- The kinds of values. -/
inductive Kind
  | null
  | bool
  | number
  | string
  | array
  | object

/-- The kind of a value. -/
def Value.kind : Value → Kind
  | .null => .null
  | .bool _ => .bool
  | .number _ => .number
  | .string _ => .string
  | .array _ => .array
  | .object _ => .object

/-- What kind of value starts with a character. -/
def lead (c : Char) : Option Kind :=
  if c.isDigit || c == '-' then some .number
  else if c == 'n' then some .null
  else if c == 't' || c == 'f' then some .bool
  else if c == quotationMark then some .string
  else if c == '[' then some .array
  else if c == '{' then some .object
  else none

variable {esc}

theorem exists_text (v : Value) : ∃ c cs, text esc v = c :: cs ∧ lead c = some v.kind := by
  cases v with
  | null => exact ⟨'n', _, rfl, rfl⟩
  | bool b => cases b <;> exact ⟨_, _, rfl, rfl⟩
  | number n =>
    unfold text integer
    split_ifs
    · exact ⟨'-', _, rfl, rfl⟩
    · obtain ⟨c, cs, hcons, hdigit⟩ := exists_decimal n.natAbs
      refine ⟨c, cs, hcons, ?_⟩
      unfold lead
      rw [hdigit]
      rfl
  | string s => exact ⟨quotationMark, _, by unfold text; rfl, rfl⟩
  | array items =>
    cases items with
    | nil => exact ⟨'[', _, by unfold text; rfl, rfl⟩
    | cons item items => exact ⟨'[', _, by unfold text; rfl, rfl⟩
  | object fields =>
    cases fields with
    | nil => exact ⟨'{', _, by unfold text; rfl, rfl⟩
    | cons field fields => exact ⟨'{', _, by unfold text; rfl, rfl⟩

/-- Texts that are the same up to what is behind them are texts of one kind. -/
theorem kind_eq {v w : Value} {r r' : List Char} (h : text esc v ++ r = text esc w ++ r') :
    v.kind = w.kind := by
  obtain ⟨c, cs, hv, hc⟩ := @exists_text esc v
  obtain ⟨d, ds, hw, hd⟩ := @exists_text esc w
  rw [hv, hw] at h
  rw [(List.cons.inj h).1] at hc
  exact Option.some.inj (hc.symm.trans hd)

/-- No value starts with the end of an array. -/
theorem text_append_ne (v : Value) (r r' : List Char) : text esc v ++ r ≠ ']' :: r' := by
  obtain ⟨c, cs, hv, hc⟩ := @exists_text esc v
  rw [hv]
  rintro ⟨⟩
  cases hc

/-- No key starts with the end of an object. -/
theorem quoted_append_ne (s : List Char) (r r' : List Char) : quoted esc s ++ r ≠ '}' :: r' := by
  rintro ⟨⟩

theorem noDigit_restItems (items : List Value) (r : List Char) : NoDigit (restItems esc items ++ r) := by
  cases items <;> exact noDigit_cons (by decide) _

theorem noDigit_restFields (fields : List (List Char × Value)) (r : List Char) :
    NoDigit (restFields esc fields ++ r) := by
  cases fields <;> exact noDigit_cons (by decide) _

/-! What is behind the first item or field, up to the end. -/

theorem restItems_cons_append (item : Value) (items : List Value) (r : List Char) :
    restItems esc (item :: items) ++ r = ',' :: (text esc item ++ (restItems esc items ++ r)) := by
  simp [restItems]

theorem text_array_append (item : Value) (items : List Value) (r : List Char) :
    text esc (.array (item :: items)) ++ r = '[' :: (text esc item ++ (restItems esc items ++ r)) := by
  simp [text]

theorem restFields_cons_append (key : List Char) (value : Value) (fields : List (List Char × Value))
    (r : List Char) : restFields esc ((key, value) :: fields) ++ r =
      ',' :: (quoted esc key ++ ':' :: (text esc value ++ (restFields esc fields ++ r))) := by
  simp [restFields]

theorem text_object_append (key : List Char) (value : Value) (fields : List (List Char × Value))
    (r : List Char) : text esc (.object ((key, value) :: fields)) ++ r =
      '{' :: (quoted esc key ++ ':' :: (text esc value ++ (restFields esc fields ++ r))) := by
  simp [text]

mutual

theorem text_inj (v w : Value) (r r' : List Char) (hr : NoDigit r) (hr' : NoDigit r')
    (h : text esc v ++ r = text esc w ++ r') : v = w ∧ r = r' := by
  have hkind := kind_eq h
  cases v with
  | null =>
    cases w with
    | null => exact ⟨rfl, List.append_cancel_left h⟩
    | _ => cases hkind
  | bool b =>
    cases w with
    | bool b' => cases b <;> cases b' <;> cases h <;> exact ⟨rfl, rfl⟩
    | _ => cases hkind
  | number n =>
    cases w with
    | number n' =>
      obtain ⟨rfl, hrest⟩ := delimits_integer hr hr' h
      exact ⟨rfl, hrest⟩
    | _ => cases hkind
  | string s =>
    cases w with
    | string s' =>
      obtain ⟨rfl, hrest⟩ := delimits_quoted esc trivial trivial h
      exact ⟨rfl, hrest⟩
    | _ => cases hkind
  | array items =>
    cases w with
    | array items' =>
      obtain ⟨rfl, hrest⟩ := array_inj items items' r r' h
      exact ⟨rfl, hrest⟩
    | _ => cases hkind
  | object fields =>
    cases w with
    | object fields' =>
      obtain ⟨rfl, hrest⟩ := object_inj fields fields' r r' h
      exact ⟨rfl, hrest⟩
    | _ => cases hkind
termination_by structural v

theorem array_inj (items items' : List Value) (r r' : List Char)
    (h : text esc (.array items) ++ r = text esc (.array items') ++ r') : items = items' ∧ r = r' := by
  cases items with
  | nil =>
    cases items' with
    | nil => exact ⟨rfl, List.append_cancel_left h⟩
    | cons item' items' =>
      rw [text_array_append] at h
      exact absurd (List.cons.inj h).2.symm (text_append_ne item' _ _)
  | cons item items =>
    rw [text_array_append] at h
    cases items' with
    | nil => exact absurd (List.cons.inj h).2 (text_append_ne item _ _)
    | cons item' items' =>
      rw [text_array_append] at h
      obtain ⟨rfl, hitems⟩ := text_inj item item' _ _ (noDigit_restItems items r)
        (noDigit_restItems items' r') (List.cons.inj h).2
      obtain ⟨rfl, hrest⟩ := restItems_inj items items' r r' hitems
      exact ⟨rfl, hrest⟩
termination_by structural items

theorem restItems_inj (items items' : List Value) (r r' : List Char)
    (h : restItems esc items ++ r = restItems esc items' ++ r') : items = items' ∧ r = r' := by
  cases items with
  | nil =>
    cases items' with
    | nil => exact ⟨rfl, List.append_cancel_left h⟩
    | cons item' items' => cases h
  | cons item items =>
    cases items' with
    | nil => cases h
    | cons item' items' =>
      rw [restItems_cons_append, restItems_cons_append] at h
      obtain ⟨rfl, hitems⟩ := text_inj item item' _ _ (noDigit_restItems items r)
        (noDigit_restItems items' r') (List.cons.inj h).2
      obtain ⟨rfl, hrest⟩ := restItems_inj items items' r r' hitems
      exact ⟨rfl, hrest⟩
termination_by structural items

theorem object_inj (fields fields' : List (List Char × Value)) (r r' : List Char)
    (h : text esc (.object fields) ++ r = text esc (.object fields') ++ r') :
    fields = fields' ∧ r = r' := by
  cases fields with
  | nil =>
    cases fields' with
    | nil => exact ⟨rfl, List.append_cancel_left h⟩
    | cons field' fields' =>
      rw [text_object_append] at h
      exact absurd (List.cons.inj h).2.symm (quoted_append_ne _ _ _)
  | cons field fields =>
    obtain ⟨key, value⟩ := field
    rw [text_object_append] at h
    cases fields' with
    | nil => exact absurd (List.cons.inj h).2 (quoted_append_ne _ _ _)
    | cons field' fields' =>
      obtain ⟨key', value'⟩ := field'
      rw [text_object_append] at h
      obtain ⟨rfl, hvalue⟩ := delimits_quoted esc trivial trivial (List.cons.inj h).2
      obtain ⟨rfl, hfields⟩ := text_inj value value' _ _ (noDigit_restFields fields r)
        (noDigit_restFields fields' r') (List.cons.inj hvalue).2
      obtain ⟨rfl, hrest⟩ := restFields_inj fields fields' r r' hfields
      exact ⟨rfl, hrest⟩
termination_by structural fields

theorem restFields_inj (fields fields' : List (List Char × Value)) (r r' : List Char)
    (h : restFields esc fields ++ r = restFields esc fields' ++ r') : fields = fields' ∧ r = r' := by
  cases fields with
  | nil =>
    cases fields' with
    | nil => exact ⟨rfl, List.append_cancel_left h⟩
    | cons field' fields' => cases h
  | cons field fields =>
    obtain ⟨key, value⟩ := field
    cases fields' with
    | nil => cases h
    | cons field' fields' =>
      obtain ⟨key', value'⟩ := field'
      rw [restFields_cons_append, restFields_cons_append] at h
      obtain ⟨rfl, hvalue⟩ := delimits_quoted esc trivial trivial (List.cons.inj h).2
      obtain ⟨rfl, hfields⟩ := text_inj value value' _ _ (noDigit_restFields fields r)
        (noDigit_restFields fields' r') (List.cons.inj hvalue).2
      obtain ⟨rfl, hrest⟩ := restFields_inj fields fields' r r' hfields
      exact ⟨rfl, hrest⟩
termination_by structural fields

end

/-- The text of a value delimits itself. -/
theorem delimits_text : Delimits NoDigit (text esc) := fun v w r r' => text_inj v w r r'

/-- A text stands for one value. -/
theorem text_injective : Function.Injective (text esc) := delimits_text.injective noDigit_nil

/-! ### Lists of entries -/

theorem restItems_eq (items : List Value) :
    restItems esc items = items.flatMap (fun item => ',' :: text esc item) ++ [']'] := by
  induction items with
  | nil => rfl
  | cons item items ih => simp [restItems, ih]

theorem restFields_eq (fields : List (List Char × Value)) : restFields esc fields =
    fields.flatMap (fun field => ',' :: (quoted esc field.1 ++ ':' :: text esc field.2)) ++ ['}'] := by
  induction fields with
  | nil => rfl
  | cons field fields ih =>
    obtain ⟨key, value⟩ := field
    simp [restFields, ih]

theorem intercalate_comma (first : List Char) (rest : List (List Char)) :
    [','].intercalate (first :: rest) = first ++ rest.flatMap (fun entry => ',' :: entry) := by
  induction rest generalizing first with
  | nil => simp [List.intercalate]
  | cons entry rest ih =>
    rw [List.intercalate_cons_cons, ih entry]
    simp

/-- An array: its items with commas between them. -/
theorem text_array (items : List Value) : text esc (.array items) =
    ['['] ++ [','].intercalate (items.map (text esc)) ++ [']'] := by
  cases items with
  | nil => rfl
  | cons item items =>
    rw [List.map_cons, intercalate_comma, List.flatMap_map]
    simp [text, restItems_eq]

/-- An object: its fields with commas between them. -/
theorem text_object (fields : List (List Char × Value)) : text esc (.object fields) =
    ['{'] ++ [','].intercalate (fields.map fun field =>
      quoted esc field.1 ++ [':'] ++ text esc field.2) ++ ['}'] := by
  cases fields with
  | nil => rfl
  | cons field fields =>
    obtain ⟨key, value⟩ := field
    rw [List.map_cons, intercalate_comma, List.flatMap_map]
    simp [text, restFields_eq]

/-! ### Characters -/

/-- The characters of JSON itself, besides digits and the quotation mark. -/
def marks : List Char := "-[]\x7b\x7d,:nulltruefalse".toList

/-- The characters that a text may hold. -/
inductive Written (esc : Escape) (c : Char) : Prop
  | mark (h : c ∈ marks)
  | digit (h : c.isDigit = true)
  | quotation (h : c = quotationMark)
  | escaped (d : Char) (h : c ∈ esc.code d)

theorem written_of_subset {l : List Char} (hl : l ⊆ marks) {c : Char} (h : c ∈ l) : Written esc c :=
  .mark (hl h)

theorem written_of_mem_integer {n : ℤ} {c : Char} (h : c ∈ integer n) : Written esc c := by
  unfold integer at h
  split_ifs at h
  · rcases List.mem_cons.1 h with rfl | h
    · exact .mark (by decide)
    · exact .digit (isDigit_of_mem_decimal h)
  · exact .digit (isDigit_of_mem_decimal h)

theorem written_of_mem_quoted {s : List Char} {c : Char} (h : c ∈ quoted esc s) : Written esc c := by
  rcases List.mem_append.1 h with h | h
  · rcases List.mem_cons.1 h with h | h
    · exact .quotation h
    · obtain ⟨d, -, hc⟩ := List.mem_flatMap.1 h
      exact .escaped d hc
  · exact .quotation (List.mem_singleton.1 h)

mutual

/-- A text holds nothing but characters of JSON and escaped ones. -/
theorem written_of_mem_text (v : Value) (c : Char) (h : c ∈ text esc v) : Written esc c := by
  cases v with
  | null => exact @written_of_subset _ "null".toList (by decide) _ h
  | bool b =>
    cases b with
    | false => exact @written_of_subset _ "false".toList (by decide) _ h
    | true => exact @written_of_subset _ "true".toList (by decide) _ h
  | number n => exact written_of_mem_integer h
  | string s => exact written_of_mem_quoted h
  | array items =>
    cases items with
    | nil => exact @written_of_subset _ ['[', ']'] (by decide) _ h
    | cons item items =>
      rw [text, List.mem_cons, List.mem_append] at h
      rcases h with rfl | h | h
      · exact .mark (by decide)
      · exact written_of_mem_text item c h
      · exact written_of_mem_restItems items c h
  | object fields =>
    cases fields with
    | nil => exact @written_of_subset _ ['{', '}'] (by decide) _ h
    | cons field fields =>
      obtain ⟨key, value⟩ := field
      rw [text, List.mem_cons, List.mem_append, List.mem_cons, List.mem_append] at h
      rcases h with rfl | h | rfl | h | h
      · exact .mark (by decide)
      · exact written_of_mem_quoted h
      · exact .mark (by decide)
      · exact written_of_mem_text value c h
      · exact written_of_mem_restFields fields c h
termination_by structural v

theorem written_of_mem_restItems (items : List Value) (c : Char) (h : c ∈ restItems esc items) :
    Written esc c := by
  cases items with
  | nil =>
    rw [List.mem_singleton.1 h]
    exact .mark (by decide)
  | cons item items =>
    rw [restItems, List.mem_cons, List.mem_append] at h
    rcases h with rfl | h | h
    · exact .mark (by decide)
    · exact written_of_mem_text item c h
    · exact written_of_mem_restItems items c h
termination_by structural items

theorem written_of_mem_restFields (fields : List (List Char × Value)) (c : Char)
    (h : c ∈ restFields esc fields) : Written esc c := by
  cases fields with
  | nil =>
    rw [List.mem_singleton.1 h]
    exact .mark (by decide)
  | cons field fields =>
    obtain ⟨key, value⟩ := field
    rw [restFields, List.mem_cons, List.mem_append, List.mem_cons, List.mem_append] at h
    rcases h with rfl | h | rfl | h | h
    · exact .mark (by decide)
    · exact written_of_mem_quoted h
    · exact .mark (by decide)
    · exact written_of_mem_text value c h
    · exact written_of_mem_restFields fields c h
termination_by structural fields

end

/-- An object ends with its brace. -/
theorem exists_text_object (fields : List (List Char × Value)) :
    ∃ front, text esc (.object fields) = front ++ ['}'] := ⟨_, text_object fields⟩

end Json
