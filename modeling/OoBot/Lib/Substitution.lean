import Mathlib.Data.List.Chain
import Mathlib.Data.List.Find
import Mathlib.Data.List.Infix
import Mathlib.Tactic.Common

/-!
# Simultaneous substitution for marked needles

A table names needles and what is put in their place.  `substitute` does that in one pass from the
left.  The needles are *marked* when each starts with two symbols `a` and `b`, has no further `a`, and
is no prefix of another (`Marked`).

A word that is made of symbols and needles (`Item`) is substituted item by item, as long as no symbol
`a` stands right before a symbol `b` (`pieces_spell`).  Substituting one needle after the other comes
to the same when the word at the end shows no `a` before a `b` (`foldl_substitute`), which is a matter
of the pieces and their seams (`not_infix_flatten_iff`).
-/

namespace Substitution

variable {α : Type*}

/-! ### One pass -/

/-- Needles, and what is put in their place. -/
abbrev Table (α : Type*) := List (List α × List α)

section Pass

variable [DecidableEq α]

/-- What a pass puts down, piece by piece, after `skip` more symbols of the last needle have been passed
over: the value of a needle, or a single symbol. -/
def piecesFrom (table : Table α) : ℕ → List α → List (List α)
  | _, [] => []
  | skip + 1, _ :: s => piecesFrom table skip s
  | 0, c :: s =>
      match table.find? fun r => r.1 <+: c :: s with
      | some r => r.2 :: piecesFrom table (r.1.length - 1) s
      | none => [c] :: piecesFrom table 0 s

/-- The pieces of a whole word. -/
def pieces (table : Table α) (s : List α) : List (List α) := piecesFrom table 0 s

/-- All needles of the table are replaced in one pass from the left. -/
def substitute (table : Table α) (s : List α) : List α := (pieces table s).flatten

variable {table : Table α}

/-- The rest of a needle is passed over. -/
theorem piecesFrom_length_append (l rest : List α) :
    piecesFrom table l.length (l ++ rest) = piecesFrom table 0 rest := by
  induction l with
  | nil => rfl
  | cons c l ih => exact ih

/-- A symbol at which no needle starts is put down. -/
theorem piecesFrom_cons_of_not_match {c : α} {s : List α} (h : ∀ r ∈ table, ¬ r.1 <+: c :: s) :
    piecesFrom table 0 (c :: s) = [c] :: piecesFrom table 0 s := by
  have hfind : table.find? (fun r => r.1 <+: c :: s) = none :=
    List.find?_eq_none.2 fun r hr => by simpa using h r hr
  rw [piecesFrom, hfind]

/-- So is a part at whose places no needle starts. -/
theorem piecesFrom_append_of_not_match {l rest : List α}
    (h : ∀ i < l.length, ∀ r ∈ table, ¬ r.1 <+: l.drop i ++ rest) :
    piecesFrom table 0 (l ++ rest) = l.map (fun c => [c]) ++ piecesFrom table 0 rest := by
  induction l with
  | nil => rfl
  | cons c l ih =>
    have hfront : ∀ r ∈ table, ¬ r.1 <+: c :: (l ++ rest) := h 0 (Nat.succ_pos _)
    rw [List.cons_append, piecesFrom_cons_of_not_match hfront, ih]
    · rfl
    · exact fun i hi => h (i + 1) (Nat.succ_lt_succ hi)

end Pass

/-! ### Marked needles -/

/-- The needles start with `a` and `b`, have no further `a`, and none is a prefix of another. -/
structure Marked (a b : α) (needles : List (List α)) : Prop where
  ne : a ≠ b
  shape : ∀ n ∈ needles, ∃ body, n = a :: b :: body ∧ a ∉ body
  code : ∀ m ∈ needles, ∀ n ∈ needles, m <+: n → m = n

section Marked

variable {a b : α} {needles : List (List α)} {m n : List α}

theorem Marked.two_le_length (h : Marked a b needles) (hn : n ∈ needles) : 2 ≤ n.length := by
  obtain ⟨body, rfl, -⟩ := h.shape n hn
  simp

/-- A needle starts where another one does only when they are the same. -/
theorem Marked.prefix_append_iff (h : Marked a b needles) (hm : m ∈ needles) (hn : n ∈ needles)
    (rest : List α) : m <+: n ++ rest ↔ m = n := by
  constructor
  · intro hpre
    rcases List.prefix_or_prefix_of_prefix hpre (List.prefix_append n rest) with hmn | hnm
    · exact h.code m hm n hn hmn
    · exact (h.code n hn m hm hnm).symm
  · rintro rfl
    exact List.prefix_append m rest

/-- A needle starts with the two marks. -/
theorem Marked.eq_of_prefix (h : Marked a b needles) (hm : m ∈ needles) {c : α} {s : List α}
    (hpre : m <+: c :: s) : c = a ∧ [b] <+: s := by
  obtain ⟨body, rfl, -⟩ := h.shape m hm
  obtain ⟨rfl, hrest⟩ := List.cons_prefix_cons.1 hpre
  exact ⟨rfl, (List.prefix_append [b] body).trans hrest⟩

/-- No needle starts inside another. -/
theorem Marked.not_prefix_drop (h : Marked a b needles) (hm : m ∈ needles) (hn : n ∈ needles) {i : ℕ}
    (hi : i + 1 < n.length) (rest : List α) : ¬ m <+: n.drop (i + 1) ++ rest := by
  intro hpre
  obtain ⟨body, rfl, hbody⟩ := h.shape n hn
  rw [List.drop_succ_cons, List.drop_eq_getElem_cons (by simpa using hi), List.cons_append] at hpre
  have hmem : a ∈ b :: body := by
    rw [← (h.eq_of_prefix hm hpre).1]
    exact List.getElem_mem _
  rcases List.mem_cons.1 hmem with hab | hmem
  · exact h.ne hab
  · exact hbody hmem

end Marked

/-! ### Items -/

/-- A word is made of symbols and of needles. -/
inductive Item (α : Type*)
  | sym (c : α)
  | hole (needle : List α)

/-- How an item is spelled. -/
def Item.spell : Item α → List α
  | .sym c => [c]
  | .hole n => n

/-- The word that is made of these items. -/
def spell (its : List (Item α)) : List α := its.flatMap Item.spell

@[simp] theorem spell_nil : spell ([] : List (Item α)) = [] := rfl

@[simp] theorem spell_cons (i : Item α) (its : List (Item α)) :
    spell (i :: its) = i.spell ++ spell its := rfl

@[simp] theorem spell_append (its its' : List (Item α)) :
    spell (its ++ its') = spell its ++ spell its' := by
  simp [spell]

@[simp] theorem spell_map_sym (l : List α) : spell (l.map Item.sym) = l := by
  induction l with
  | nil => rfl
  | cons c l ih =>
    rw [List.map_cons, spell_cons, ih]
    rfl

/-- The holes are needles, and no symbol `a` stands right before a symbol `b`. -/
structure Fits (a b : α) (needles : List (List α)) (its : List (Item α)) : Prop where
  holes : ∀ n, Item.hole n ∈ its → n ∈ needles
  apart : ¬ [Item.sym a, Item.sym b] <:+: its

section Fits

variable {a b : α} {needles : List (List α)} {its : List (Item α)}

theorem Fits.tail {i : Item α} (h : Fits a b needles (i :: its)) : Fits a b needles its where
  holes n hn := h.holes n (List.mem_cons_of_mem _ hn)
  apart hinfix := h.apart (List.infix_cons_iff.2 (Or.inr hinfix))

/-- A word that starts with `b` starts with the symbol `b`, not with a needle. -/
theorem Fits.head_of_prefix (hmarked : Marked a b needles) (h : Fits a b needles its)
    (hpre : [b] <+: spell its) : ∃ rest, its = .sym b :: rest := by
  cases its with
  | nil => simp at hpre
  | cons i its =>
    cases i with
    | sym c =>
      obtain ⟨rfl, -⟩ := List.cons_prefix_cons.1 hpre
      exact ⟨its, rfl⟩
    | hole n =>
      obtain ⟨body, rfl, -⟩ := hmarked.shape n (h.holes n List.mem_cons_self)
      exact absurd (List.cons_prefix_cons.1 hpre).1.symm hmarked.ne

theorem flatten_map_singleton (l : List α) : (l.map fun c => [c]).flatten = l := by
  induction l with
  | nil => rfl
  | cons c l ih => rw [List.map_cons, List.flatten_cons, ih, List.singleton_append]

end Fits

section Items

variable [DecidableEq α] {a b : α} {needles : List (List α)} {its : List (Item α)} {table : Table α}

/-- The value of a needle. -/
def lookup (table : Table α) (n : List α) : Option (List α) :=
  (table.find? fun r => r.1 = n).map (·.2)

/-- The pieces that an item becomes. -/
def Item.pieces (table : Table α) : Item α → List (List α)
  | .sym c => [[c]]
  | .hole n =>
      match lookup table n with
      | some v => [v]
      | none => n.map fun c => [c]

/-- The items that an item becomes. -/
def Item.fill (table : Table α) : Item α → List (Item α)
  | .sym c => [.sym c]
  | .hole n =>
      match lookup table n with
      | some v => v.map .sym
      | none => [.hole n]

/-- The items after a pass. -/
def fillItems (table : Table α) (its : List (Item α)) : List (Item α) := its.flatMap (Item.fill table)

/-- One pass goes item by item. -/
theorem pieces_spell (hmarked : Marked a b needles) (htable : ∀ r ∈ table, r.1 ∈ needles)
    (h : Fits a b needles its) : pieces table (spell its) = its.flatMap (Item.pieces table) := by
  unfold pieces
  induction its with
  | nil => rfl
  | cons i its ih =>
    rw [spell_cons, List.flatMap_cons, ← ih h.tail]
    cases i with
    | sym c =>
      -- a needle here would be the symbol `a` before the symbol `b`
      refine piecesFrom_cons_of_not_match fun r hr hpre => ?_
      obtain ⟨rfl, hb⟩ := hmarked.eq_of_prefix (htable r hr) hpre
      obtain ⟨rest, rfl⟩ := h.tail.head_of_prefix hmarked hb
      exact h.apart (List.prefix_append [Item.sym c, Item.sym b] rest).isInfix
    | hole n =>
      have hn := h.holes n List.mem_cons_self
      have hlen := hmarked.two_le_length hn
      unfold Item.pieces lookup
      simp only [Item.spell]
      cases hfind : table.find? (fun r => r.1 = n) with
      | some r =>
        obtain ⟨c, l, rfl⟩ := List.exists_cons_of_length_pos (by omega : 0 < n.length)
        have hstart : table.find? (fun r => r.1 <+: c :: (l ++ spell its)) = some r := by
          rw [← hfind]
          refine List.find?_congr fun r hr => ?_
          rw [decide_eq_decide, ← List.cons_append]
          exact hmarked.prefix_append_iff (htable r hr) hn _
        have hr : r.1 = c :: l := by simpa using List.find?_some hfind
        rw [List.cons_append, piecesFrom, hstart]
        simp only [hr, List.length_cons, Nat.add_sub_cancel, piecesFrom_length_append]
        rfl
      | none =>
        refine piecesFrom_append_of_not_match fun i hi r hr hpre => ?_
        have hne : r.1 ≠ n := by simpa using List.find?_eq_none.1 hfind r hr
        cases i with
        | zero => exact hne ((hmarked.prefix_append_iff (htable r hr) hn _).1 hpre)
        | succ i => exact hmarked.not_prefix_drop (htable r hr) hn hi _ hpre

theorem flatten_item_pieces (i : Item α) : (i.pieces table).flatten = spell (i.fill table) := by
  cases i with
  | sym c => rfl
  | hole n =>
    unfold Item.pieces Item.fill
    cases hlookup : lookup table n with
    | some v => simp [hlookup]
    | none => simp [hlookup, flatten_map_singleton, Item.spell]

theorem flatten_flatMap_pieces (its : List (Item α)) :
    (its.flatMap (Item.pieces table)).flatten = spell (fillItems table its) := by
  induction its with
  | nil => rfl
  | cons i its ih =>
    unfold fillItems at ih ⊢
    rw [List.flatMap_cons, List.flatten_append, ih, List.flatMap_cons, spell_append,
      flatten_item_pieces]

/-- So does the substitution. -/
theorem substitute_spell (hmarked : Marked a b needles) (htable : ∀ r ∈ table, r.1 ∈ needles)
    (h : Fits a b needles its) : substitute table (spell its) = spell (fillItems table its) := by
  rw [substitute, pieces_spell hmarked htable h, flatten_flatMap_pieces]

/-! ### One needle after the other -/

theorem mem_fillItems {i : Item α} (h : i ∈ fillItems table its) :
    (∃ c, i = .sym c) ∨ ∃ n, i = .hole n ∧ i ∈ its := by
  obtain ⟨j, hj, hi⟩ := List.mem_flatMap.1 h
  cases j with
  | sym c => exact Or.inl ⟨c, List.mem_singleton.1 hi⟩
  | hole n =>
    unfold Item.fill at hi
    cases hlookup : lookup table n with
    | some v =>
      simp only [hlookup] at hi
      obtain ⟨c, -, rfl⟩ := List.mem_map.1 hi
      exact Or.inl ⟨c, rfl⟩
    | none =>
      simp only [hlookup] at hi
      rw [List.mem_singleton.1 hi]
      exact Or.inr ⟨n, rfl, hj⟩

@[simp] theorem fillItems_nil_table (its : List (Item α)) : fillItems [] its = its := by
  unfold fillItems
  induction its with
  | nil => rfl
  | cons i its ih =>
    rw [List.flatMap_cons, ih]
    cases i <;> rfl

theorem fillItems_map_sym (l : List α) : fillItems table (l.map Item.sym) = l.map Item.sym := by
  unfold fillItems
  induction l with
  | nil => rfl
  | cons c l ih =>
    rw [List.map_cons, List.flatMap_cons, ih]
    rfl

/-- The first entry of a table may be filled in first. -/
theorem fillItems_cons (r : List α × List α) (table : Table α) (its : List (Item α)) :
    fillItems (r :: table) its = fillItems table (fillItems [r] its) := by
  have hitem : ∀ i : Item α, i.fill (r :: table) = fillItems table (i.fill [r]) := by
    intro i
    cases i with
    | sym c => rfl
    | hole n =>
      unfold Item.fill lookup
      by_cases hr : r.1 = n
      · simp [hr, fillItems_map_sym]
      · simp [hr, fillItems, Item.fill, lookup]
  unfold fillItems at hitem ⊢
  rw [List.flatMap_assoc]
  exact List.flatMap_congr fun i _ => hitem i

/-- What stands side by side in the items stands side by side in the word at the end. -/
theorem infix_spell_fillItems (h : [Item.sym a, Item.sym b] <:+: its) :
    [a, b] <:+: spell (fillItems table its) := by
  obtain ⟨before, after, rfl⟩ := h
  unfold fillItems
  rw [List.flatMap_append, List.flatMap_append, spell_append, spell_append]
  exact List.infix_append _ _ _

/-- One needle after the other is the same as all at once, when the word at the end has no `a` right
before a `b`. -/
theorem foldl_substitute (hmarked : Marked a b needles) {later : Table α}
    (htable : ∀ r ∈ table, r.1 ∈ needles) (hholes : ∀ n, Item.hole n ∈ its → n ∈ needles)
    (hclear : ¬ [a, b] <:+: spell (fillItems (table ++ later) its)) :
    table.foldl (fun s r => substitute [r] s) (spell its) = spell (fillItems table its) := by
  induction table generalizing its with
  | nil => rw [List.foldl_nil, fillItems_nil_table]
  | cons r table ih =>
    have hfits : Fits a b needles its := ⟨hholes, fun h => hclear (infix_spell_fillItems h)⟩
    have hone : ∀ r' ∈ [r], r'.1 ∈ needles := by
      simpa using htable r List.mem_cons_self
    rw [List.foldl_cons, substitute_spell hmarked hone hfits, ih, ← fillItems_cons]
    · exact fun r' hr' => htable r' (List.mem_cons_of_mem _ hr')
    · intro n hn
      rcases mem_fillItems hn with ⟨c, hc⟩ | ⟨m, -, hm⟩
      · cases hc
      · exact hholes n hm
    · rwa [← fillItems_cons, ← List.cons_append]

/-! ### Reading the items of a word -/

/-- The items of a word, after `skip` more symbols of the last needle have been passed over. -/
def itemsFrom (needles : List (List α)) : ℕ → List α → List (Item α)
  | _, [] => []
  | skip + 1, _ :: s => itemsFrom needles skip s
  | 0, c :: s =>
      match needles.find? fun n => n <+: c :: s with
      | some n => .hole n :: itemsFrom needles (n.length - 1) s
      | none => .sym c :: itemsFrom needles 0 s

/-- The items spell the word. -/
theorem spell_itemsFrom (hmarked : Marked a b needles) (skip : ℕ) (s : List α) :
    spell (itemsFrom needles skip s) = s.drop skip := by
  induction s generalizing skip with
  | nil => cases skip <;> rfl
  | cons c s ih =>
    cases skip with
    | succ skip => exact ih skip
    | zero =>
      rw [itemsFrom]
      cases hfind : needles.find? (fun n => n <+: c :: s) with
      | none =>
        simp only [spell_cons, ih]
        rfl
      | some n =>
        have hpre : n <+: c :: s := by simpa using List.find?_some hfind
        have hlen := hmarked.two_le_length (List.mem_of_find?_eq_some hfind)
        obtain ⟨k, hk⟩ : ∃ k, n.length = k + 1 := ⟨n.length - 1, by omega⟩
        simp only [spell_cons, Item.spell, ih, hk, Nat.add_sub_cancel]
        rw [← List.drop_succ_cons (a := c), ← hk]
        exact List.prefix_iff_eq_append.1 hpre

theorem mem_itemsFrom {skip : ℕ} {s : List α} {n : List α}
    (h : Item.hole n ∈ itemsFrom needles skip s) : n ∈ needles := by
  induction s generalizing skip with
  | nil => cases skip <;> cases h
  | cons c s ih =>
    cases skip with
    | succ skip => exact ih h
    | zero =>
      rw [itemsFrom] at h
      cases hfind : needles.find? (fun n => n <+: c :: s) with
      | none =>
        rw [hfind] at h
        rcases List.mem_cons.1 h with h | h
        · cases h
        · exact ih h
      | some m =>
        rw [hfind] at h
        rcases List.mem_cons.1 h with h | h
        · injection h with h
          rw [h]
          exact List.mem_of_find?_eq_some hfind
        · exact ih h

/-- A symbol at the start of the items is one at the start of the word. -/
theorem prefix_of_sym_prefix {d : α} {s : List α} (h : [Item.sym d] <+: itemsFrom needles 0 s) :
    [d] <+: s := by
  cases s with
  | nil => simp [itemsFrom] at h
  | cons c s =>
    rw [itemsFrom] at h
    cases hfind : needles.find? (fun n => n <+: c :: s) with
    | none =>
      rw [hfind] at h
      obtain ⟨hd, -⟩ := List.cons_prefix_cons.1 h
      injection hd with hd
      rw [hd]
      exact List.prefix_append [c] s
    | some n =>
      rw [hfind] at h
      cases (List.cons_prefix_cons.1 h).1

/-- Where every `a` before a `b` starts a needle, the items fit. -/
theorem fits_itemsFrom {skip : ℕ} {s : List α}
    (h : ∀ i, [a, b] <+: s.drop i → ∃ n ∈ needles, n <+: s.drop i) :
    Fits a b needles (itemsFrom needles skip s) := by
  refine ⟨fun n => mem_itemsFrom, ?_⟩
  induction s generalizing skip with
  | nil => cases skip <;> simp [itemsFrom]
  | cons c s ih =>
    have htail : ∀ i, [a, b] <+: s.drop i → ∃ n ∈ needles, n <+: s.drop i := fun i => h (i + 1)
    cases skip with
    | succ skip => exact ih htail
    | zero =>
      rw [itemsFrom]
      cases hfind : needles.find? (fun n => n <+: c :: s) with
      | none =>
        rw [List.infix_cons_iff, not_or]
        refine ⟨?_, ih htail⟩
        intro hpre
        obtain ⟨hc, hrest⟩ := List.cons_prefix_cons.1 hpre
        injection hc with hc
        -- the item after the symbol `a` is the symbol `b`, so `a` and `b` stand in the word
        have hword : [a, b] <+: c :: s := by
          rw [hc, List.cons_prefix_cons]
          exact ⟨rfl, prefix_of_sym_prefix hrest⟩
        obtain ⟨n, hn, hpre'⟩ := h 0 hword
        have hnone := List.find?_eq_none.1 hfind n hn
        simp only [decide_eq_true_eq] at hnone
        exact hnone hpre'
      | some n =>
        rw [List.infix_cons_iff, not_or]
        refine ⟨?_, ih htail⟩
        intro hpre
        cases (List.cons_prefix_cons.1 hpre).1

end Items

/-! ### Seams -/

section Seams

variable {a b : α}

/-- The first piece ends with `a`, and the second starts with `b`. -/
def Meets (a b : α) (p q : List α) : Prop := p.getLast? = some a ∧ q.head? = some b

instance [DecidableEq α] (p q : List α) : Decidable (Meets a b p q) := by
  unfold Meets
  infer_instance

/-- No piece has an `a` right before a `b`, and no two neighbouring pieces meet in such a pair, empty
pieces aside. -/
structure Clear (a b : α) (ps : List (List α)) : Prop where
  inside : ∀ p ∈ ps, ¬ [a, b] <:+: p
  seams : (ps.filter fun p => !p.isEmpty).IsChain fun p q => ¬ Meets a b p q

theorem clear_iff (ps : List (List α)) : Clear a b ps ↔ (∀ p ∈ ps, ¬ [a, b] <:+: p) ∧
    (ps.filter fun p => !p.isEmpty).IsChain fun p q => ¬ Meets a b p q :=
  ⟨fun h => ⟨h.inside, h.seams⟩, fun h => ⟨h.1, h.2⟩⟩

instance [DecidableEq α] (ps : List (List α)) : Decidable (Clear a b ps) :=
  decidable_of_iff _ (clear_iff ps).symm

/-- A pair stands in two words, or where they meet. -/
theorem pair_infix_append_iff (l r : List α) :
    [a, b] <:+: l ++ r ↔ [a, b] <:+: l ∨ [a, b] <:+: r ∨ Meets a b l r := by
  induction l with
  | nil => simp [Meets]
  | cons c l ih =>
    rw [List.cons_append, List.infix_cons_iff, ih, List.infix_cons_iff]
    cases l with
    | nil =>
      cases r with
      | nil => simp [Meets]
      | cons d r =>
        simp only [Meets, List.nil_append, List.cons_prefix_cons, List.nil_prefix, and_true,
          List.prefix_nil, List.infix_nil, List.getLast?_singleton, List.head?_cons,
          Option.some.injEq, eq_comm]
        grind
    | cons d l =>
      simp only [Meets, List.cons_append, List.cons_prefix_cons, List.nil_prefix, and_true,
        List.getLast?_cons_cons, or_assoc]

theorem head?_flatten (ps : List (List α)) :
    ps.flatten.head? = (ps.filter fun p => !p.isEmpty).head?.bind List.head? := by
  induction ps with
  | nil => rfl
  | cons p ps ih =>
    cases p with
    | nil => simpa using ih
    | cons c p => simp

/-- A word shows no `a` right before a `b` exactly when its pieces are clear. -/
theorem not_infix_flatten_iff (ps : List (List α)) : ¬ [a, b] <:+: ps.flatten ↔ Clear a b ps := by
  rw [clear_iff]
  induction ps with
  | nil => simp
  | cons p ps ih =>
    rw [List.flatten_cons, pair_infix_append_iff, List.forall_mem_cons, not_or, not_or, ih]
    cases p with
    | nil => simp [Meets]
    | cons c p =>
      have hmeets : Meets a b (c :: p) ps.flatten ↔
          ∃ q ∈ (ps.filter fun p => !p.isEmpty).head?, Meets a b (c :: p) q := by
        unfold Meets
        rw [head?_flatten]
        cases (ps.filter fun p => !p.isEmpty).head? <;> simp
      rw [hmeets, List.filter_cons_of_pos (by rfl), List.isChain_cons]
      constructor
      · rintro ⟨hp, ⟨hin, hseams⟩, hnot⟩
        exact ⟨⟨hp, hin⟩, fun q hq hm => hnot ⟨q, hq, hm⟩, hseams⟩
      · rintro ⟨⟨hp, hin⟩, hnot, hseams⟩
        refine ⟨hp, ⟨hin, hseams⟩, ?_⟩
        rintro ⟨q, hq, hm⟩
        exact hnot q hq hm

end Seams

end Substitution
