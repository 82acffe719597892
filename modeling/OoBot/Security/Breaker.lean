import OoBot.Lib.Runs
import OoBot.Security.Limiters

/-!
# What the circuit breaker remembers

The breaker keeps the failures within its window and one instant up to which it is open.  After any
sequence of calls at non-decreasing instants that is enough to say what the whole history says: the
breaker is open exactly when some failure tripped it, and its time is not over (`breaker_exact`).
-/

namespace OoBot

namespace HttpCircuitBreaker

/-- A call of `record_status`. -/
abbrev StatusCall := ℕ × Instant

/-- The breaker after calls of `record_status`. -/
def recordAll (self : HttpCircuitBreaker) (calls : List StatusCall) : HttpCircuitBreaker :=
  Runs.run (fun b call => b.recordStatus call.1 call.2) self calls

/-- The calls that count as failures and lie within `window` before `s`. -/
def failuresWithin (window : Duration) (s : Instant) (calls : List StatusCall) : List StatusCall :=
  calls.filter fun call => isFailure call.1 ∧ s ≤ call.2 + window ∧ call.2 ≤ s

/-- Some recorded failure tripped the breaker, and its time is not over. -/
def Tripped (window : Duration) (threshold : ℕ) (openFor : Duration) (calls : List StatusCall)
    (now : Instant) : Prop :=
  ∃ before status s after, calls = before ++ (status, s) :: after ∧ isFailure status = true ∧
    s ≤ now ∧ now < s + openFor ∧
      max 1 threshold ≤ (failuresWithin window s (before ++ [(status, s)])).length

section Tripped

variable {window openFor : Duration} {threshold : ℕ} {calls : List StatusCall} {now : Instant}

theorem not_tripped_nil : ¬ Tripped window threshold openFor [] now := by
  rintro ⟨before, status, s, after, h, -⟩
  cases before <;> cases h

/-- A further call trips the breaker by itself, or leaves what was there. -/
theorem tripped_concat {status : ℕ} {s : Instant} :
    Tripped window threshold openFor (calls ++ [(status, s)]) now ↔
      Tripped window threshold openFor calls now ∨ (isFailure status = true ∧ s ≤ now ∧
        now < s + openFor ∧
          max 1 threshold ≤ (failuresWithin window s (calls ++ [(status, s)])).length) := by
  constructor
  · rintro ⟨before, status', s', after, heq, hfail, hle, hlt, hcount⟩
    rcases List.eq_nil_or_concat' after with rfl | ⟨after, last, rfl⟩
    · obtain ⟨rfl, hcall⟩ := List.append_inj' heq rfl
      cases hcall
      exact Or.inr ⟨hfail, hle, hlt, hcount⟩
    · rw [← List.cons_append, ← List.append_assoc] at heq
      obtain ⟨rfl, -⟩ := List.append_inj' heq rfl
      exact Or.inl ⟨before, status', s', after, rfl, hfail, hle, hlt, hcount⟩
  · rintro (⟨before, status', s', after, rfl, hfail, hle, hlt, hcount⟩ | ⟨hfail, hle, hlt, hcount⟩)
    · exact ⟨before, status', s', after ++ [(status, s)], by simp, hfail, hle, hlt, hcount⟩
    · exact ⟨calls, status, s, [], rfl, hfail, hle, hlt, hcount⟩

theorem Tripped.lt_add (h : Tripped window threshold openFor calls now) {s : Instant}
    (hs : ∀ call ∈ calls, call.2 ≤ s) : now < s + openFor := by
  obtain ⟨before, status, s', after, rfl, -, -, hlt, -⟩ := h
  have hle := hs (status, s') (by simp)
  exact lt_of_lt_of_le hlt (Nat.add_le_add_right hle openFor)

end Tripped

/-- The instants of the recorded failures. -/
def failureTimes (calls : List StatusCall) : List Instant :=
  (calls.filter fun call => isFailure call.1).map Prod.snd

/-- What the breaker keeps of the recorded calls. -/
structure Tracks (window : Duration) (threshold : ℕ) (openFor : Duration) (calls : List StatusCall)
    (b : HttpCircuitBreaker) : Prop where
  window_eq : b.window = window
  threshold_eq : b.threshold = max threshold 1
  openFor_eq : b.openFor = openFor
  /-- The failures are those that were within the window at the last failure. -/
  failures : ∃ last, (∀ t, (∀ call ∈ calls, call.2 ≤ t) → last ≤ t) ∧
    b.failures = (failureTimes calls).filter fun t => durationSince last t ≤ window
  isOpen_iff : ∀ now, (∀ call ∈ calls, call.2 ≤ now) →
    (b.isOpen now = true ↔ Tripped window threshold openFor calls now)

section Tracks

variable {window openFor : Duration} {threshold : ℕ} {calls : List StatusCall}
  {b : HttpCircuitBreaker}

theorem tracks_new : Tracks window threshold openFor [] (new window threshold openFor) where
  window_eq := rfl
  threshold_eq := rfl
  openFor_eq := rfl
  failures := ⟨0, fun t _ => Nat.zero_le t, rfl⟩
  isOpen_iff now _ := by
    constructor
    · intro h
      cases h
    · intro h
      exact absurd h not_tripped_nil

/-- The failures after a further one are those within the window before it. -/
theorem Tracks.failures_push (h : Tracks window threshold openFor calls b) {status : ℕ} {s : Instant}
    (hfail : isFailure status = true) (hsorted : (calls.map Prod.snd).Pairwise (· ≤ ·))
    (hs : ∀ call ∈ calls, call.2 ≤ s) :
    trimFront b.window s (b.failures ++ [s]) =
      (failureTimes (calls ++ [(status, s)])).filter fun t => durationSince s t ≤ window := by
  obtain ⟨last, hlast, hfailures⟩ := h.failures
  have htimes : failureTimes (calls ++ [(status, s)]) = failureTimes calls ++ [s] := by
    simp [failureTimes, hfail]
  have hle : ∀ t ∈ failureTimes calls, t ≤ s := by
    intro t ht
    obtain ⟨call, hcall, rfl⟩ := List.mem_map.1 ht
    exact hs call (List.mem_of_mem_filter hcall)
  have hpair : (failureTimes calls).Pairwise (· ≤ ·) :=
    hsorted.sublist (List.filter_sublist.map Prod.snd)
  have hkept : (b.failures ++ [s]).Pairwise (· ≤ ·) := by
    rw [hfailures]
    refine List.pairwise_append.2 ⟨hpair.sublist List.filter_sublist, List.pairwise_singleton _ _, ?_⟩
    intro t ht s' hs'
    rw [List.mem_singleton.1 hs']
    exact hle t (List.mem_of_mem_filter ht)
  rw [h.window_eq, trimFront_eq_filter hkept, htimes, hfailures, List.filter_append,
    List.filter_append, List.filter_filter]
  -- what the window at `s` admits, the one at the last failure admitted
  congr 1
  refine List.filter_congr fun t _ => ?_
  have hmono : durationSince last t ≤ durationSince s t := Nat.sub_le_sub_right (hlast s hs) t
  rw [Bool.eq_iff_iff]
  simp only [Bool.and_eq_true, decide_eq_true_eq]
  exact ⟨And.left, fun hwindow => ⟨hwindow, hmono.trans hwindow⟩⟩

/-- The failures within the window, counted in the history. -/
theorem length_failuresWithin {s : Instant} (hs : ∀ call ∈ calls, call.2 ≤ s) :
    ((failureTimes calls).filter fun t => durationSince s t ≤ window).length =
      (failuresWithin window s calls).length := by
  unfold failureTimes failuresWithin
  rw [List.filter_map, List.length_map, List.filter_filter]
  congr 1
  refine List.filter_congr fun call hcall => ?_
  have hwithin : durationSince s call.2 ≤ window ↔ s ≤ call.2 + window := Nat.sub_le_iff_le_add'
  rw [Bool.eq_iff_iff]
  simp only [Function.comp_apply, Bool.and_eq_true, decide_eq_true_eq]
  constructor
  · rintro ⟨hwindow, hfail⟩
    exact ⟨hfail, hwithin.1 hwindow, hs call hcall⟩
  · rintro ⟨hfail, hwindow, -⟩
    exact ⟨hwithin.2 hwindow, hfail⟩

/-- An instant after the calls and a further one is after both. -/
theorem le_concat {call : StatusCall} {t : Instant}
    (h : ∀ c ∈ calls ++ [call], c.2 ≤ t) : (∀ c ∈ calls, c.2 ≤ t) ∧ call.2 ≤ t :=
  ⟨fun c hc => h c (List.mem_append_left _ hc), h call (by simp)⟩

/-- A further failure keeps what the breaker says about the history. -/
theorem Tracks.record_failure (h : Tracks window threshold openFor calls b) {status : ℕ}
    {s : Instant} (hfail : isFailure status = true)
    (hsorted : (calls.map Prod.snd).Pairwise (· ≤ ·)) (hs : ∀ call ∈ calls, call.2 ≤ s) :
    Tracks window threshold openFor (calls ++ [(status, s)]) (b.recordStatus status s) := by
  have hpush := h.failures_push hfail hsorted hs
  have hs' : ∀ call ∈ calls ++ [(status, s)], call.2 ≤ s := by
    intro call hcall
    rcases List.mem_append.1 hcall with hcall | hcall
    · exact hs call hcall
    · rw [List.mem_singleton.1 hcall]
  have hlen : (trimFront b.window s (b.failures ++ [s])).length =
      (failuresWithin window s (calls ++ [(status, s)])).length := by
    rw [hpush, length_failuresWithin hs']
  unfold recordStatus
  rw [if_pos hfail]
  refine ⟨h.window_eq, h.threshold_eq, h.openFor_eq, ⟨s, fun t ht => (le_concat ht).2, hpush⟩, ?_⟩
  intro now hnow
  obtain ⟨hcalls, hsnow⟩ := le_concat hnow
  rw [tripped_concat, ← hlen]
  by_cases htrip : (trimFront b.window s (b.failures ++ [s])).length ≥ b.threshold
  · -- the new instant is later than any that an earlier failure set
    have hopen : isOpen ⟨b.window, b.threshold, b.openFor,
        trimFront b.window s (b.failures ++ [s]), some (s + b.openFor)⟩ now = true ↔
        now < s + openFor := by
      simp [isOpen, h.openFor_eq]
    rw [h.threshold_eq] at htrip
    simp only [h.threshold_eq, htrip, if_true]
    rw [h.threshold_eq] at hopen
    rw [hopen]
    constructor
    · intro hlt
      exact Or.inr ⟨hfail, hsnow, hlt, by omega⟩
    · rintro (hold | ⟨-, -, hlt, -⟩)
      · exact hold.lt_add hs
      · exact hlt
  · have hopen : isOpen ⟨b.window, b.threshold, b.openFor,
        trimFront b.window s (b.failures ++ [s]), b.openUntil⟩ now = b.isOpen now := rfl
    simp only [if_neg htrip]
    rw [hopen, h.isOpen_iff now hcalls]
    rw [h.threshold_eq] at htrip
    constructor
    · exact Or.inl
    · rintro (hold | ⟨-, -, -, hcount⟩)
      · exact hold
      · omega

/-- A status that is no failure changes nothing, and nothing in the history counts it. -/
theorem Tracks.record_other (h : Tracks window threshold openFor calls b) {status : ℕ} {s : Instant}
    (hother : isFailure status ≠ true) :
    Tracks window threshold openFor (calls ++ [(status, s)]) (b.recordStatus status s) := by
  have hsame : b.recordStatus status s = b := if_neg hother
  have htimes : failureTimes (calls ++ [(status, s)]) = failureTimes calls := by
    simp [failureTimes, hother]
  rw [hsame]
  obtain ⟨last, hlast, hfailures⟩ := h.failures
  refine ⟨h.window_eq, h.threshold_eq, h.openFor_eq,
    ⟨last, fun t ht => hlast t (le_concat ht).1, by rw [htimes, hfailures]⟩, ?_⟩
  intro now hnow
  rw [h.isOpen_iff now (le_concat hnow).1, tripped_concat]
  constructor
  · exact Or.inl
  · rintro (hold | ⟨hfail, -⟩)
    · exact hold
    · exact absurd hfail hother

/-- A further call keeps what the breaker says about the history. -/
theorem Tracks.record (h : Tracks window threshold openFor calls b) {status : ℕ} {s : Instant}
    (hsorted : (calls.map Prod.snd).Pairwise (· ≤ ·)) (hs : ∀ call ∈ calls, call.2 ≤ s) :
    Tracks window threshold openFor (calls ++ [(status, s)]) (b.recordStatus status s) := by
  by_cases hfail : isFailure status = true
  · exact h.record_failure hfail hsorted hs
  · exact h.record_other hfail

/-- What the breaker says after any calls at non-decreasing instants. -/
theorem tracks_recordAll (hsorted : (calls.map Prod.snd).Pairwise (· ≤ ·)) :
    Tracks window threshold openFor calls ((new window threshold openFor).recordAll calls) := by
  induction calls using List.reverseRecOn with
  | nil => exact tracks_new
  | append_singleton calls call ih =>
    obtain ⟨status, s⟩ := call
    rw [List.map_append] at hsorted
    obtain ⟨hcalls, -, hle⟩ := List.pairwise_append.1 hsorted
    unfold recordAll
    rw [Runs.run_append]
    refine Tracks.record (ih hcalls) hcalls ?_
    intro call hcall
    exact hle call.2 (List.mem_map.2 ⟨call, hcall, rfl⟩) s (by simp)

end Tracks

/-- **The breaker is open exactly when the recorded history says so.**  After any calls of
`record_status` at non-decreasing instants and at any later instant: some failure is not older than the
opening time and had enough failures within the window before it; the other test says the opposite; and
a status that is no failure changes nothing. -/
theorem breaker_exact (window : Duration) (threshold : ℕ) (openFor : Duration)
    (calls : List StatusCall) (now : Instant)
    (h : (calls.map Prod.snd ++ [now]).Pairwise (· ≤ ·)) :
    (((new window threshold openFor).recordAll calls).isOpen now = true ↔
        Tripped window threshold openFor calls now) ∧
      (∀ t, ((new window threshold openFor).recordAll calls).allowsOutbound t =
        !((new window threshold openFor).recordAll calls).isOpen t) ∧
      ∀ status t, status ≠ 401 → status ≠ 403 → status ≠ 429 →
        ((new window threshold openFor).recordAll calls).recordStatus status t =
          (new window threshold openFor).recordAll calls := by
  obtain ⟨hsorted, -, hnow⟩ := List.pairwise_append.1 h
  refine ⟨(tracks_recordAll hsorted).isOpen_iff now ?_, fun t => allowsOutbound_eq _ t, ?_⟩
  · intro call hcall
    exact hnow call.2 (List.mem_map.2 ⟨call, hcall, rfl⟩) now (by simp)
  · intro status t h401 h403 h429
    refine if_neg ?_
    simp [isFailure, h401, h403, h429]

/-- Three failures within ten seconds open the breaker for five. -/
theorem breaker_exact_three :
    (((new 10 3 5).recordAll [(429, 0), (200, 1), (403, 1), (401, 2)]).isOpen 6 = true ↔
        Tripped 10 3 5 [(429, 0), (200, 1), (403, 1), (401, 2)] 6) ∧
      (∀ t, ((new 10 3 5).recordAll [(429, 0), (200, 1), (403, 1), (401, 2)]).allowsOutbound t =
        !((new 10 3 5).recordAll [(429, 0), (200, 1), (403, 1), (401, 2)]).isOpen t) ∧
      ∀ status t, status ≠ 401 → status ≠ 403 → status ≠ 429 →
        ((new 10 3 5).recordAll [(429, 0), (200, 1), (403, 1), (401, 2)]).recordStatus status t =
          (new 10 3 5).recordAll [(429, 0), (200, 1), (403, 1), (401, 2)] :=
  breaker_exact 10 3 5 [(429, 0), (200, 1), (403, 1), (401, 2)] 6 (by decide)

end HttpCircuitBreaker

end OoBot
