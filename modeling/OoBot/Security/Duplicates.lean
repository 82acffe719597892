import Mathlib.Data.Finset.Card
import OoBot.Security.Transitions

/-!
# What the duplicate guard remembers

The guard keeps the last mark of an identifier as long as it is within the ttl and the guard is not
full.  A full guard keeps the latest marks, so what it forgets early has been followed by as many other
identifiers as it holds (`DuplicateGuard.Tracks`).

In a run of the core the guard sees the messages that the first guards let through, and an outbound
decision is one on a message that it does not know (`duplicate_suppression_exact`).
-/

namespace OoBot

/-- A message identifier and the instant at which it was marked. -/
abbrev Mark := UInt64 × Instant

/-- The last mark of an identifier. -/
def lastMark (marks : List Mark) (m : UInt64) : Option Instant :=
  ((marks.filter fun mark => mark.1 = m).getLast?).map Prod.snd

/-- The other identifiers that were marked at or after `u`. -/
def othersSince (marks : List Mark) (m : UInt64) (u : Instant) : Finset UInt64 :=
  ((marks.filter fun mark => mark.1 ≠ m ∧ u ≤ mark.2).map Prod.fst).toFinset

section Marks

variable {marks : List Mark} {mark : Mark} {m x : UInt64} {u : Instant}

theorem mem_othersSince : x ∈ othersSince marks m u ↔ x ≠ m ∧ ∃ s, (x, s) ∈ marks ∧ u ≤ s := by
  simp only [othersSince, List.mem_toFinset, List.mem_map, List.mem_filter, decide_eq_true_eq,
    Prod.exists]
  constructor
  · rintro ⟨y, s, ⟨hmem, hne, hle⟩, rfl⟩
    exact ⟨hne, s, hmem, hle⟩
  · rintro ⟨hne, s, hmem, hle⟩
    exact ⟨x, s, ⟨hmem, hne, hle⟩, rfl⟩

theorem othersSince_subset_concat : othersSince marks m u ⊆ othersSince (marks ++ [mark]) m u := by
  intro x hx
  obtain ⟨hne, s, hmem, hle⟩ := mem_othersSince.1 hx
  exact mem_othersSince.2 ⟨hne, s, List.mem_append_left _ hmem, hle⟩

theorem lastMark_concat :
    lastMark (marks ++ [mark]) m = if mark.1 = m then some mark.2 else lastMark marks m := by
  unfold lastMark
  rw [List.filter_append]
  by_cases h : mark.1 = m
  · simp [h]
  · simp [h]

theorem mem_of_lastMark (h : lastMark marks m = some u) : (m, u) ∈ marks := by
  obtain ⟨mark, hlast, rfl⟩ := Option.map_eq_some_iff.1 h
  have hmem := List.mem_of_getLast? hlast
  rw [List.mem_filter, decide_eq_true_eq] at hmem
  rw [← hmem.2]
  exact hmem.1

theorem lastMark_eq_none_iff : lastMark marks m = none ↔ ∀ mark ∈ marks, mark.1 ≠ m := by
  unfold lastMark
  rw [Option.map_eq_none_iff, List.getLast?_eq_none_iff, List.filter_eq_nil_iff]
  simp

/-- Of marks in order, the last one is the latest. -/
theorem le_lastMark (hsorted : (marks.map Prod.snd).Pairwise (· ≤ ·)) {s : Instant}
    (hmem : (m, s) ∈ marks) (h : lastMark marks m = some u) : s ≤ u := by
  induction marks using List.reverseRecOn with
  | nil => cases hmem
  | append_singleton marks mark ih =>
    rw [List.map_append] at hsorted
    obtain ⟨hmarks, -, hle⟩ := List.pairwise_append.1 hsorted
    rw [lastMark_concat] at h
    rcases List.mem_append.1 hmem with hmem | hmem
    · by_cases hm : mark.1 = m
      · rw [if_pos hm] at h
        cases h
        exact hle s (List.mem_map.2 ⟨(m, s), hmem, rfl⟩) mark.2 (by simp)
      · rw [if_neg hm] at h
        exact ih hmarks hmem h
    · obtain rfl := List.mem_singleton.1 hmem
      rw [if_pos rfl] at h
      cases h
      exact le_refl _

end Marks

namespace DuplicateGuard

/-! ### Compaction -/

section Compact

variable {self : DuplicateGuard} {order : IterOrder UInt64 Instant} {m k : UInt64} {u v now : Instant}

theorem sortByTime_pairwise (items : List (UInt64 × Instant)) :
    (sortByTime items).Pairwise fun a b => a.2 ≤ b.2 := by
  have htrans : ∀ a b c : UInt64 × Instant, decide (a.2 ≤ b.2) = true →
      decide (b.2 ≤ c.2) = true → decide (a.2 ≤ c.2) = true := by
    intro a b c hab hbc
    exact decide_eq_true ((of_decide_eq_true hab).trans (of_decide_eq_true hbc))
  have htotal : ∀ a b : UInt64 × Instant,
      (decide (a.2 ≤ b.2) || decide (b.2 ≤ a.2)) = true := by
    intro a b
    rw [Bool.or_eq_true]
    exact (le_total a.2 b.2).imp decide_eq_true decide_eq_true
  exact (List.pairwise_mergeSort htrans htotal items).imp of_decide_eq_true

theorem perm_sortByTime (self : DuplicateGuard) (order : IterOrder UInt64 Instant) :
    (sortByTime (order.arrange self.seen.entries)).Perm self.seen.entries :=
  (List.mergeSort_perm _ _).trans (order.perm self.seen.entries)

theorem size_compact (h : self.cap ≤ self.seen.size) : (self.compact order).seen.size = self.cap := by
  have hlen := (perm_sortByTime self order).length_eq
  unfold KeyMap.size at h ⊢
  unfold compact KeyMap.skip KeyMap.reorder
  simp only [List.length_drop, hlen]
  omega

/-- What compaction leaves was there before. -/
theorem get?_of_compact (h : (self.compact order).seen.get? m = some u) :
    self.seen.get? m = some u := by
  have h' := KeyMap.get?_of_get?_skip h
  exact (KeyMap.get?_reorder _).symm.trans h'

/-- What compaction drops is not later than what it keeps. -/
theorem le_of_dropped (hin : self.seen.get? m = some u)
    (hout : (self.compact order).seen.get? m = none)
    (hkept : (k, v) ∈ (self.compact order).seen.entries) : k ≠ m ∧ u ≤ v := by
  have hkept' := KeyMap.get?_eq_some_iff.2 hkept
  constructor
  · rintro rfl
    rw [hout] at hkept'
    cases hkept'
  · -- the sorted entries are the dropped ones and then the kept ones
    have hmem := (perm_sortByTime self order).mem_iff.2 (KeyMap.get?_eq_some_iff.1 hin)
    have hsorted := sortByTime_pairwise (order.arrange self.seen.entries)
    have hnot := KeyMap.get?_eq_none_iff.1 hout u
    unfold compact KeyMap.skip KeyMap.reorder at hkept hnot
    simp only at hkept hnot
    rw [← List.take_append_drop (_ - self.cap) (sortByTime _)] at hmem hsorted
    rcases List.mem_append.1 hmem with hdropped | hkept''
    · exact (List.pairwise_append.1 hsorted).2.2 _ hdropped _ hkept
    · exact absurd hkept'' hnot

/-- After a call the guard holds no more than its capacity. -/
theorem size_isDuplicateAndMark : (self.isDuplicateAndMark m now order).2.seen.size ≤ self.cap := by
  unfold isDuplicateAndMark
  simp only
  split_ifs with h
  · exact le_of_eq (size_compact (le_of_lt h))
  · exact Nat.not_lt.1 h

end Compact

/-! ### The guard and the history -/

/-- What the guard remembers of the marks so far. -/
structure Tracks (ttl : Duration) (cap : ℕ) (marks : List Mark) (g : DuplicateGuard) : Prop where
  ttl_eq : g.ttl = ttl
  cap_eq : g.cap = max cap 64
  /-- It holds last marks. -/
  last : ∀ m u, g.seen.get? m = some u → lastMark marks m = some u
  /-- A last mark that it does not hold is too old, or was followed by as many others. -/
  forgotten : ∀ m u, lastMark marks m = some u → g.seen.get? m = some u ∨
    (∀ now, (∀ mark ∈ marks, mark.2 ≤ now) → ttl < durationSince now u) ∨
      max cap 64 ≤ (othersSince marks m u).card

section Tracks

variable {ttl : Duration} {cap : ℕ} {marks : List Mark} {g : DuplicateGuard} {m : UInt64}
  {now : Instant} {order : IterOrder UInt64 Instant}

theorem tracks_new : Tracks ttl cap [] (new ttl cap) where
  ttl_eq := rfl
  cap_eq := rfl
  last m u h := by cases h
  forgotten m u h := by cases h

/-- Dropping the old marks and setting a new one. -/
theorem Tracks.insert (h : Tracks ttl cap marks g) :
    Tracks ttl cap (marks ++ [(m, now)])
      { g.evictOld now with seen := (g.evictOld now).seen.insert m now } where
  ttl_eq := h.ttl_eq
  cap_eq := h.cap_eq
  last k u hk := by
    rw [KeyMap.get?_insert] at hk
    rw [lastMark_concat]
    by_cases hkm : k = m
    · rw [if_pos hkm] at hk
      rw [if_pos hkm.symm]
      exact hk
    · rw [if_neg hkm, evictOld, KeyMap.get?_retain, Option.filter_eq_some_iff] at hk
      rw [if_neg (Ne.symm hkm)]
      exact h.last k u hk.1
  forgotten k u hk := by
    have hle : ∀ {later}, (∀ mark ∈ marks ++ [(m, now)], mark.2 ≤ later) → now ≤ later :=
      fun hlater => hlater (m, now) (by simp)
    rw [lastMark_concat] at hk
    rw [KeyMap.get?_insert]
    by_cases hkm : k = m
    · rw [if_pos hkm.symm] at hk
      rw [if_pos hkm]
      exact Or.inl hk
    · rw [if_neg (Ne.symm hkm)] at hk
      rw [if_neg hkm, evictOld, KeyMap.get?_retain]
      rcases h.forgotten k u hk with hin | hold | hmany
      · by_cases hlive : durationSince now u ≤ g.ttl
        · refine Or.inl ?_
          rw [hin]
          simp [hlive]
        · -- evicted now, and too old from now on
          refine Or.inr (Or.inl fun later hlater => ?_)
          rw [h.ttl_eq, not_le] at hlive
          exact lt_of_lt_of_le hlive (Nat.sub_le_sub_right (hle hlater) u)
      · refine Or.inr (Or.inl fun later hlater => hold later fun mark hmark => ?_)
        exact hlater mark (List.mem_append_left _ hmark)
      · exact Or.inr (Or.inr (hmany.trans (Finset.card_le_card othersSince_subset_concat)))

/-- Compaction forgets only what has been followed by as many others. -/
theorem Tracks.compact (h : Tracks ttl cap marks g) (hsize : g.cap ≤ g.seen.size) :
    Tracks ttl cap marks (g.compact order) where
  ttl_eq := h.ttl_eq
  cap_eq := h.cap_eq
  last k u hk := h.last k u (get?_of_compact hk)
  forgotten k u hk := by
    rcases h.forgotten k u hk with hin | hrest
    · cases hout : (g.compact order).seen.get? k with
      | some v =>
        rw [get?_of_compact hout] at hin
        exact Or.inl hin
      | none =>
        refine Or.inr (Or.inr ?_)
        have hcard : (((g.compact order).seen.entries.map Prod.fst).toFinset).card =
            max cap 64 := by
          rw [List.toFinset_card_of_nodup (g.compact order).seen.nodup, List.length_map, ← h.cap_eq]
          exact size_compact hsize
        rw [← hcard]
        refine Finset.card_le_card fun x hx => ?_
        obtain ⟨⟨x, v⟩, hmem, rfl⟩ := List.mem_map.1 (List.mem_toFinset.1 hx)
        obtain ⟨hne, hle⟩ := le_of_dropped hin hout hmem
        have hlast := h.last x v (get?_of_compact (KeyMap.get?_eq_some_iff.2 hmem))
        exact mem_othersSince.2 ⟨hne, v, mem_of_lastMark hlast, hle⟩
    · exact Or.inr hrest

theorem Tracks.mark (h : Tracks ttl cap marks g) :
    Tracks ttl cap (marks ++ [(m, now)]) (g.isDuplicateAndMark m now order).2 := by
  have hins : Tracks ttl cap (marks ++ [(m, now)])
      { g.evictOld now with seen := (g.evictOld now).seen.insert m now } := h.insert
  unfold isDuplicateAndMark
  simp only
  split_ifs with hfull
  · exact hins.compact (le_of_lt hfull)
  · exact hins

/-- What an answer of the guard says about the marks so far. -/
structure Exact (ttl : Duration) (cap : ℕ) (marks : List Mark) (m : UInt64) (now : Instant)
    (isDup : Bool) : Prop where
  dup : isDup = true → ∃ u, (m, u) ∈ marks ∧ durationSince now u ≤ ttl
  fresh : isDup = false → (∀ mark ∈ marks, mark.1 ≠ m) ∨ ∃ u, lastMark marks m = some u ∧
    (ttl < durationSince now u ∨ max cap 64 ≤ (othersSince marks m u).card)

theorem Tracks.exact (h : Tracks ttl cap marks g) (hnow : ∀ mark ∈ marks, mark.2 ≤ now) :
    Exact ttl cap marks m now (g.isDuplicateAndMark m now order).1 := by
  have hlive := g.isDuplicateAndMark_eq_true_iff m now order
  constructor
  · intro hdup
    obtain ⟨u, hu, hle⟩ := hlive.1 hdup
    rw [h.ttl_eq] at hle
    exact ⟨u, mem_of_lastMark (h.last m u hu), hle⟩
  · intro hfresh
    cases hlast : lastMark marks m with
    | none => exact Or.inl (lastMark_eq_none_iff.1 hlast)
    | some u =>
      refine Or.inr ⟨u, rfl, ?_⟩
      rcases h.forgotten m u hlast with hin | hold | hmany
      · refine Or.inl (not_le.1 fun hle => ?_)
        have hdup := hlive.2 ⟨u, hin, by rw [h.ttl_eq]; exact hle⟩
        rw [hfresh] at hdup
        cases hdup
      · exact Or.inl (hold now hnow)
      · exact Or.inr hmany

/-- A call of `is_duplicate_and_mark`: the mark, and the iteration order of the hash map. -/
abbrev MarkCall := Mark × IterOrder UInt64 Instant

/-- The guard after calls. -/
def markAll (self : DuplicateGuard) (calls : List MarkCall) : DuplicateGuard :=
  Runs.run (fun g call => (g.isDuplicateAndMark call.1.1 call.1.2 call.2).2) self calls

theorem tracks_markAll (calls : List MarkCall) :
    Tracks ttl cap (calls.map Prod.fst) ((new ttl cap).markAll calls) := by
  induction calls using List.reverseRecOn with
  | nil => exact tracks_new
  | append_singleton calls call ih =>
    unfold markAll
    rw [Runs.run_append, List.map_append]
    exact ih.mark

theorem size_markAll (calls : List MarkCall) :
    ((new ttl cap).markAll calls).seen.size ≤ max cap 64 := by
  have hinv : ((new ttl cap).markAll calls).cap = max cap 64 ∧
      ((new ttl cap).markAll calls).seen.size ≤ max cap 64 := by
    refine Runs.run_inv (I := fun g : DuplicateGuard => g.cap = max cap 64 ∧ g.seen.size ≤ max cap 64) ?_
      ⟨rfl, Nat.zero_le _⟩ calls
    rintro g call ⟨hcap, -⟩
    refine ⟨?_, by rw [← hcap]; exact size_isDuplicateAndMark⟩
    unfold isDuplicateAndMark
    simp only
    split_ifs
    · exact hcap
    · exact hcap
  exact hinv.2

end Tracks

end DuplicateGuard

/-! ### The guard in a run of the core -/

namespace TrustedCore

variable {F σ : Type} [F64 F]

/-- The mark of a message that reached the guard. -/
def Decided.mark (e : Decided) : Mark := (e.ctx.messageId, e.now)

/-- The marks of a run. -/
def marks (h : List Decided) : List Mark := (h.filter Decided.marked).map Decided.mark

/-- The other messages that were marked from `s` to `t`. -/
def othersMarked (h : List Decided) (m : UInt64) (s t : Instant) : Finset UInt64 :=
  (((marks h).filter fun mark => mark.1 ≠ m ∧ s ≤ mark.2 ∧ mark.2 ≤ t).map Prod.fst).toFinset

theorem mem_othersMarked {h : List Decided} {m x : UInt64} {s t : Instant} :
    x ∈ othersMarked h m s t ↔ x ≠ m ∧ ∃ u, (x, u) ∈ marks h ∧ s ≤ u ∧ u ≤ t := by
  simp only [othersMarked, List.mem_toFinset, List.mem_map, List.mem_filter, decide_eq_true_eq,
    Prod.exists]
  constructor
  · rintro ⟨y, u, ⟨hmem, hne, hle⟩, rfl⟩
    exact ⟨hne, u, hmem, hle⟩
  · rintro ⟨hne, u, hmem, hle⟩
    exact ⟨x, u, ⟨hmem, hne, hle⟩, rfl⟩

theorem marks_concat (h : List Decided) (e : Decided) :
    marks (h ++ [e]) = marks h ++ if e.marked then [e.mark] else [] := by
  unfold marks
  rw [List.filter_append, List.map_append]
  cases hm : e.marked <;> simp [hm]

/-- Two outbound decisions on one message lie further apart than the ttl, or as many other messages
as the guard holds were marked from the one to the other. -/
def Apart (ttl : Duration) (cap : ℕ) (h : List Decided) (e₁ e₂ : Decided) : Prop :=
  e₁.outbound = true → e₂.outbound = true → e₁.ctx.messageId = e₂.ctx.messageId →
    ttl < durationSince e₂.now e₁.now ∨
      max cap 64 ≤ (othersMarked h e₁.ctx.messageId e₁.now e₂.now).card

theorem Apart.concat {ttl : Duration} {cap : ℕ} {h : List Decided} {e₁ e₂ : Decided}
    (ha : Apart ttl cap h e₁ e₂) (e : Decided) : Apart ttl cap (h ++ [e]) e₁ e₂ := by
  intro hout₁ hout₂ hid
  refine (ha hout₁ hout₂ hid).imp_right fun hmany => hmany.trans (Finset.card_le_card ?_)
  intro x hx
  obtain ⟨hne, u, hmem, hle⟩ := mem_othersMarked.1 hx
  refine mem_othersMarked.2 ⟨hne, u, ?_, hle⟩
  rw [marks_concat]
  exact List.mem_append_left _ hmem

/-- What an operation does with the guard. -/
theorem step_guard (nfkc : Text → Text) (core : TrustedCore F σ) (op : Op) :
    (∃ e order, core.decided nfkc op = some e ∧ op.instant? = some e.now ∧
        (core.step nfkc op).duplicateGuard =
          (if e.marked then
            (core.duplicateGuard.isDuplicateAndMark e.ctx.messageId e.now order).2
          else core.duplicateGuard) ∧
        (e.outbound = true → e.marked = true ∧
          (core.duplicateGuard.isDuplicateAndMark e.ctx.messageId e.now order).1 = false)) ∨
      (core.decided nfkc op = none ∧
        (core.step nfkc op).duplicateGuard = core.duplicateGuard) := by
  cases op with
  | decideMessage ctx content now order =>
    obtain ⟨mode, metrics, heq⟩ := core.decideMessage_eq_outcome nfkc ctx content now order
    refine Or.inl ⟨_, order, rfl, rfl, ?_, fun hout => ?_⟩
    · unfold step
      simp only [heq]
      exact outcome_duplicateGuard
    · have hadm := (decideMessage_ne_noop (of_decide_eq_true hout)).1
      exact (admitted_iff core ctx now order).1 hadm
  | _ => exact Or.inr ⟨rfl, rfl⟩

/-- What is known about the guard after the decisions `h`. -/
structure Guarded (ttl : Duration) (cap : ℕ) (t : Instant) (h : List Decided)
    (core : TrustedCore F σ) : Prop where
  past : ∀ e ∈ h, e.now ≤ t
  sorted : ((marks h).map Prod.snd).Pairwise (· ≤ ·)
  marked : ∀ e ∈ h, e.outbound = true → e.marked = true
  tracks : DuplicateGuard.Tracks ttl cap (marks h) core.duplicateGuard
  apart : h.Pairwise (Apart ttl cap h)

theorem le_of_mem_marks {h : List Decided} {t : Instant} (hpast : ∀ e ∈ h, e.now ≤ t) {mark : Mark}
    (hmem : mark ∈ marks h) : mark.2 ≤ t := by
  obtain ⟨e, he, rfl⟩ := List.mem_map.1 hmem
  exact hpast e (List.mem_of_mem_filter he)

omit [F64 F] in
/-- An outbound decision is far enough from an earlier one on the same message. -/
theorem Guarded.apart_new {ttl : Duration} {cap : ℕ} {t : Instant} {h : List Decided}
    {core : TrustedCore F σ} (hg : Guarded ttl cap t h core) {e₁ e₂ : Decided} (he₁ : e₁ ∈ h)
    (hle : ∀ e ∈ h, e.now ≤ e₂.now) (order : IterOrder UInt64 Instant)
    (hfresh : e₂.outbound = true →
      (core.duplicateGuard.isDuplicateAndMark e₂.ctx.messageId e₂.now order).1 = false) :
    Apart ttl cap h e₁ e₂ := by
  intro hout₁ hout₂ hid
  have hmem : (e₂.ctx.messageId, e₁.now) ∈ marks h :=
    List.mem_map.2 ⟨e₁, List.mem_filter.2 ⟨he₁, hg.marked e₁ he₁ hout₁⟩, by rw [← hid]; rfl⟩
  have hexact := (@DuplicateGuard.Tracks.exact _ _ _ _ _ _ order hg.tracks
    (fun mark hmark => le_of_mem_marks hle hmark)).fresh (hfresh hout₂)
  rcases hexact with hnone | ⟨u, hlast, hcase⟩
  · exact absurd rfl (hnone _ hmem)
  · -- the last mark is not earlier than the first decision
    have hu := le_lastMark hg.sorted hmem hlast
    rcases hcase with hold | hmany
    · exact Or.inl (lt_of_lt_of_le hold (Nat.sub_le_sub_left hu e₂.now))
    · refine Or.inr (hmany.trans (Finset.card_le_card fun x hx => ?_))
      obtain ⟨hne, s, hs, hus⟩ := mem_othersSince.1 hx
      rw [← hid] at hne
      exact mem_othersMarked.2 ⟨hne, s, hs, hu.trans hus, le_of_mem_marks hle hs⟩

theorem Guarded.step {ttl : Duration} {cap : ℕ} {t : Instant} {h : List Decided}
    {core : TrustedCore F σ} (hg : Guarded ttl cap t h core) (nfkc : Text → Text) (op : Op)
    (hle : t ≤ Runs.clock Op.instant? t op) :
    Guarded ttl cap (Runs.clock Op.instant? t op) (h ++ (core.decided nfkc op).toList)
      (core.step nfkc op) := by
  rcases core.step_guard nfkc op with ⟨e, order, hdec, hinst, hguard, hout⟩ | ⟨hdec, hguard⟩
  · rw [Op.clock_eq hinst] at hle ⊢
    rw [hdec, Option.toList_some]
    have hpast : ∀ e' ∈ h, e'.now ≤ e.now := fun e' he' => (hg.past e' he').trans hle
    refine ⟨le_now_concat hpast, ?_, ?_, ?_, ?_⟩
    · rw [marks_concat, List.map_append]
      cases e.marked with
      | false => simpa using hg.sorted
      | true =>
        -- the new mark is not before any other
        refine List.pairwise_append.2 ⟨hg.sorted, List.pairwise_singleton _ _, ?_⟩
        intro s hs s' hs'
        obtain ⟨mark, hmark, rfl⟩ := List.mem_map.1 hs
        rw [List.mem_singleton.1 hs']
        exact le_of_mem_marks hpast hmark
    · intro e' he' hout'
      rcases List.mem_append.1 he' with he' | he'
      · exact hg.marked e' he' hout'
      · rw [List.mem_singleton.1 he'] at hout' ⊢
        exact (hout hout').1
    · rw [hguard, marks_concat]
      cases e.marked with
      | false => simpa using hg.tracks
      | true => exact hg.tracks.mark
    · refine List.pairwise_append.2
        ⟨hg.apart.imp fun ha => ha.concat e, List.pairwise_singleton _ _, ?_⟩
      intro e₁ he₁ e₂ he₂
      rw [List.mem_singleton.1 he₂]
      exact (hg.apart_new he₁ hpast order fun hout' => (hout hout').2).concat e
  · rw [hdec, Option.toList_none, List.append_nil]
    refine ⟨fun e he => (hg.past e he).trans hle, hg.sorted, hg.marked, ?_, hg.apart⟩
    rw [hguard]
    exact hg.tracks

/-- **Duplicate suppression is exact up to its capacity.**  After any calls, in any iteration orders
of the hash map: the guard holds no more than its capacity, and an answer at an instant that is not
before the marks says what the marks say.  Hence, in every run of a core at non-decreasing instants, two
outbound decisions on one message are far enough apart. -/
theorem duplicate_suppression_exact (nfkc : Text → Text) (analyzer : ProposalAnalyzer σ)
    (analyzerState : σ) (detector : MessageDetector) (botConfig : BotConfig)
    (runtime : RuntimeProtectionConfig F) (start : Instant) :
    (∀ (ttl : Duration) (cap : ℕ) (calls : List DuplicateGuard.MarkCall) (m : UInt64) (now : Instant)
        (order : IterOrder UInt64 Instant),
        (((calls.map Prod.fst).map Prod.snd) ++ [now]).Pairwise (· ≤ ·) →
        ((DuplicateGuard.new ttl cap).markAll calls).seen.size ≤ max cap 64 ∧
          DuplicateGuard.Exact ttl cap (calls.map Prod.fst) m now
            (((DuplicateGuard.new ttl cap).markAll calls).isDuplicateAndMark m now order).1) ∧
      ∀ ops, Runs.Clocked Op.instant? start ops →
        (decisions nfkc (newWithDetector analyzer analyzerState detector botConfig runtime start)
          ops).Pairwise
          (Apart (fromMillis runtime.duplicateTtlMs) runtime.duplicateCacheCap
            (decisions nfkc
              (newWithDetector analyzer analyzerState detector botConfig runtime start) ops)) := by
  constructor
  · intro ttl cap calls m now order hsorted
    refine ⟨DuplicateGuard.size_markAll calls, (DuplicateGuard.tracks_markAll calls).exact ?_⟩
    intro mark hmark
    exact (List.pairwise_append.1 hsorted).2.2 mark.2 (List.mem_map.2 ⟨mark, hmark, rfl⟩) now
      (by simp)
  · intro ops hops
    have hinit : Guarded (fromMillis runtime.duplicateTtlMs) runtime.duplicateCacheCap start []
        (newWithDetector analyzer analyzerState detector botConfig runtime start) :=
      ⟨by simp, List.Pairwise.nil, by simp, DuplicateGuard.tracks_new, List.Pairwise.nil⟩
    have hrun := Runs.timed_inv (I := Guarded _ _) (fun _ _ _ op hle hg => hg.step nfkc op hle) hinit
      hops
    exact hrun.apart

theorem duplicate_suppression_exact_seven :
    (((DuplicateGuard.new 5 2).markAll [((7, 0), .listed _ _), ((8, 1), .listed _ _)]).seen.size ≤
          max 2 64 ∧
        DuplicateGuard.Exact 5 2 [(7, 0), (8, 1)] 7 9
          (((DuplicateGuard.new 5 2).markAll
            [((7, 0), .listed _ _), ((8, 1), .listed _ _)]).isDuplicateAndMark 7 9
              (.listed _ _)).1) ∧
      (decisions id reactingCore twoMessages).Pairwise
        (Apart (fromMillis 180000) 8192 (decisions id reactingCore twoMessages)) := by
  have hexact := @duplicate_suppression_exact ℚ Unit _ id (fun _ s => (.ok .reactOnce, s)) ()
    (fun _ => ⟨.morphologicalReading, [], [], 1, 0, 1, false, 0⟩) canonicalBotConfig
    (defaultRuntimeProtectionConfig ℚ) 0
  exact ⟨hexact.1 5 2 [((7, 0), .listed _ _), ((8, 1), .listed _ _)] 7 9 (.listed _ _) (by decide),
    hexact.2 twoMessages twoMessages_clocked⟩

end TrustedCore

end OoBot
