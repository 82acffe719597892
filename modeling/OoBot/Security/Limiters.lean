import OoBot.Lib.F64
import OoBot.Lib.KeyMap

/-!
# The limiters of the trusted core

`mode.rs`, `rate_limiter.rs`, `duplicate_guard.rs`, `circuit_breaker.rs`, `session_budget.rs` and the
`CooldownMap` of `core_governor.rs`.

An `Instant` is a number of nanoseconds after some origin, a `Duration` a number of nanoseconds;
`duration_since` saturates at zero, as subtraction on `ℕ` does.
-/

namespace OoBot

/-- `Instant`, in nanoseconds. -/
abbrev Instant := ℕ

/-- `Duration`, in nanoseconds. -/
abbrev Duration := ℕ

/-- `Duration::from_millis`. -/
def fromMillis (ms : ℕ) : Duration := ms * 1000000

/-- `Instant::duration_since`. -/
def durationSince (later earlier : Instant) : Duration := later - earlier

/-! ### Runtime mode -/

/-- `RuntimeMode`. -/
inductive RuntimeMode
  | normal
  | observeOnly
  | reactOnly
  | auditOnly
  | fullDisable
  deriving DecidableEq, Repr

/-- `ModeTrigger`. -/
inductive ModeTrigger
  | operatorOverride
  | emergencyKillSwitch
  | invalidToken
  | circuitBreakerOpen
  | sandboxFailureSpike
  | sessionBudgetLow
  | recovery
  deriving DecidableEq, Repr

/-- `ModeState`. -/
structure ModeState where
  mode : RuntimeMode
  changedAt : Instant
  lastTrigger : ModeTrigger

/-- `ModeState::new`. -/
def ModeState.new (now : Instant) : ModeState := ⟨.normal, now, .recovery⟩

/-- `ModeState::transition`. -/
def ModeState.transition (self : ModeState) (mode : RuntimeMode) (trigger : ModeTrigger)
    (now : Instant) : Bool × ModeState :=
  if self.mode = mode then (false, self)
  else (true, { mode := mode, lastTrigger := trigger, changedAt := now })

/-- The mode after a transition is the target, whether or not it was a change. -/
@[simp] theorem ModeState.transition_mode (self : ModeState) (mode : RuntimeMode)
    (trigger : ModeTrigger) (now : Instant) : (self.transition mode trigger now).2.mode = mode := by
  unfold ModeState.transition
  split_ifs with h
  · exact h
  · rfl

/-! ### Token bucket -/

/-- `TokenBucket`. -/
structure TokenBucket (F : Type) where
  capacity : F
  refillPerSec : F
  tokens : F
  lastRefill : Instant

namespace TokenBucket

variable {F : Type} [F64 F]

/-- `TokenBucket::new`. -/
def new (capacity : ℕ) (refillPerSec : F) (now : Instant) : TokenBucket F :=
  let cap : F := F64.ofNat (max capacity 1)
  { capacity := cap
    refillPerSec := F64.max refillPerSec F64.tenth
    tokens := cap
    lastRefill := now }

/-- `TokenBucket::refill`. -/
def refill (self : TokenBucket F) (now : Instant) : TokenBucket F :=
  let elapsed : F := F64.ofNanos (durationSince now self.lastRefill)
  if F64.le elapsed (F64.ofNat 0) then self
  else
    { self with
      tokens := F64.min (F64.add self.tokens (F64.mul elapsed self.refillPerSec)) self.capacity
      lastRefill := now }

/-- `TokenBucket::try_take`. -/
def tryTake (self : TokenBucket F) (amount : ℕ) (now : Instant) : Bool × TokenBucket F :=
  let self := self.refill now
  let needed : F := F64.ofNat (max amount 1)
  if F64.le needed self.tokens then (true, { self with tokens := F64.sub self.tokens needed })
  else (false, self)

/-- A request is granted exactly when the refilled bucket holds it; then it is taken. -/
theorem tryTake_eq_true_iff (self : TokenBucket F) (amount : ℕ) (now : Instant) :
    (self.tryTake amount now).1 = true ↔
      F64.le (F64.ofNat (max amount 1)) (self.refill now).tokens = true := by
  unfold tryTake
  simp only
  split_ifs with h <;> simp [h]

theorem tryTake_tokens {self : TokenBucket F} {amount : ℕ} {now : Instant}
    (h : (self.tryTake amount now).1 = true) :
    (self.tryTake amount now).2.tokens =
      F64.sub (self.refill now).tokens (F64.ofNat (max amount 1)) := by
  have hle := (tryTake_eq_true_iff self amount now).1 h
  unfold tryTake
  simp only
  rw [if_pos hle]

/-- A bucket that has only been refilled since it was filled grants one token. -/
theorem tryTake_new [LawfulF64 F] (capacity n : ℕ) (rate : F) (start now : Instant)
    (hr : F64.le (F64.ofNat 1) rate) (hn : F64.le rate (F64.ofNat n)) :
    ((TokenBucket.new capacity rate start).tryTake 1 now).1 = true := by
  rw [tryTake_eq_true_iff]
  have hcap : F64.le (F64.ofNat (max 1 1) : F) (F64.ofNat (max capacity 1)) :=
    LawfulF64.ofNat_le (by omega)
  unfold refill
  simp only
  split_ifs with he
  · exact hcap
  · refine LawfulF64.le_min ?_ hcap
    refine LawfulF64.le_trans hcap (LawfulF64.le_add (LawfulF64.ofNat_le (Nat.zero_le _)) ?_)
    have hmax : F64.le (F64.ofNat 1) (F64.max rate F64.tenth) :=
      LawfulF64.le_trans hr (LawfulF64.le_max_left (LawfulF64.le_self hn))
    have hmax' : F64.le (F64.max rate (F64.tenth : F)) (F64.ofNat (max n 1)) :=
      LawfulF64.max_le (LawfulF64.le_trans hn (LawfulF64.ofNat_le (by omega)))
        (LawfulF64.le_trans LawfulF64.tenth_le_one (LawfulF64.ofNat_le (by omega)))
    exact LawfulF64.mul_nonneg (LawfulF64.ofNanos_nonneg _) hmax hmax'

end TokenBucket

/-! ### Duplicate guard -/

/-- The order in which a hash map is iterated: any arrangement of its entries. -/
structure IterOrder (K V : Type) where
  arrange : List (K × V) → List (K × V)
  perm : ∀ l, (arrange l).Perm l

/-- Iteration in the order in which the entries are listed. -/
def IterOrder.listed (K V : Type) : IterOrder K V := ⟨id, fun _ => List.Perm.refl _⟩

/-- `DuplicateGuard`. -/
structure DuplicateGuard where
  ttl : Duration
  cap : ℕ
  seen : KeyMap UInt64 Instant

namespace DuplicateGuard

/-- `DuplicateGuard::new`. -/
def new (ttl : Duration) (cap : ℕ) : DuplicateGuard := ⟨ttl, max cap 64, KeyMap.empty⟩

/-- `DuplicateGuard::evict_old`. -/
def evictOld (self : DuplicateGuard) (now : Instant) : DuplicateGuard :=
  { self with seen := self.seen.retain fun _ ts => durationSince now ts ≤ self.ttl }

/-- `sort_by_key` on the timestamps; the sort is stable. -/
def sortByTime (items : List (UInt64 × Instant)) : List (UInt64 × Instant) :=
  items.mergeSort fun a b => a.2 ≤ b.2

/-- `DuplicateGuard::compact`: the `cap` latest entries stay; ties are broken by the iteration order
of the hash map. -/
def compact (self : DuplicateGuard) (order : IterOrder UInt64 Instant) : DuplicateGuard :=
  let items := sortByTime (order.arrange self.seen.entries)
  let sorted := self.seen.reorder items
    ((List.mergeSort_perm _ _).trans (order.perm self.seen.entries))
  { self with seen := sorted.skip (items.length - self.cap) }

/-- `DuplicateGuard::is_duplicate_and_mark`. -/
def isDuplicateAndMark (self : DuplicateGuard) (messageId : UInt64) (now : Instant)
    (order : IterOrder UInt64 Instant) : Bool × DuplicateGuard :=
  let self := self.evictOld now
  let isDup := (self.seen.get? messageId).isSome
  let self := { self with seen := self.seen.insert messageId now }
  (isDup, if self.seen.size > self.cap then self.compact order else self)

/-- The identifiers marked within the last `ttl`. -/
def Live (self : DuplicateGuard) (messageId : UInt64) (now : Instant) : Prop :=
  ∃ ts, self.seen.get? messageId = some ts ∧ durationSince now ts ≤ self.ttl

theorem isDuplicateAndMark_eq_true_iff (self : DuplicateGuard) (messageId : UInt64)
    (now : Instant) (order : IterOrder UInt64 Instant) :
    (self.isDuplicateAndMark messageId now order).1 = true ↔ self.Live messageId now := by
  unfold isDuplicateAndMark evictOld Live
  simp only [KeyMap.get?_retain]
  cases h : self.seen.get? messageId with
  | none => simp
  | some ts => simp

end DuplicateGuard

/-! ### Circuit breaker -/

/-- Dropping the instants at the front that lie more than `window` back. -/
def trimFront (window : Duration) (now : Instant) : List Instant → List Instant
  | [] => []
  | front :: rest =>
      if durationSince now front > window then trimFront window now rest else front :: rest

/-- Of instants in order, exactly those within the window are left. -/
theorem trimFront_eq_filter {window : Duration} {now : Instant} {l : List Instant}
    (h : l.Pairwise (· ≤ ·)) :
    trimFront window now l = l.filter fun t => durationSince now t ≤ window := by
  induction l with
  | nil => rfl
  | cons front rest ih =>
    obtain ⟨hle, hrest⟩ := List.pairwise_cons.1 h
    by_cases hold : durationSince now front > window
    · rw [trimFront, if_pos hold, ih hrest, List.filter_cons_of_neg (by simpa using hold)]
    · rw [trimFront, if_neg hold]
      -- the rest is younger still
      refine (List.filter_eq_self.2 fun t ht => ?_).symm
      have hfront : durationSince now t ≤ durationSince now front := by
        unfold durationSince
        rcases List.mem_cons.1 ht with rfl | ht
        · exact le_refl _
        · exact Nat.sub_le_sub_left (hle t ht) now
      exact decide_eq_true (hfront.trans (Nat.not_lt.1 hold))

/-- What is dropped before more is appended would be dropped after it too. -/
theorem trimFront_append_trimFront {window : Duration} {now later : Instant} (h : now ≤ later)
    (l more : List Instant) : trimFront window later (trimFront window now l ++ more) =
      trimFront window later (l ++ more) := by
  induction l with
  | nil => rfl
  | cons front rest ih =>
    by_cases hold : durationSince now front > window
    · have hlater : durationSince later front > window :=
        lt_of_lt_of_le hold (Nat.sub_le_sub_right h front)
      rw [trimFront, if_pos hold, ih, List.cons_append]
      exact (if_pos hlater).symm
    · rw [trimFront, if_neg hold]

/-- What is dropped at an instant is dropped later too. -/
theorem trimFront_trimFront {window : Duration} {now later : Instant} (h : now ≤ later)
    (l : List Instant) : trimFront window later (trimFront window now l) =
      trimFront window later l := by
  have happend := @trimFront_append_trimFront window now later h l []
  rwa [List.append_nil, List.append_nil] at happend

/-- `HttpCircuitBreaker`. -/
structure HttpCircuitBreaker where
  window : Duration
  threshold : ℕ
  openFor : Duration
  failures : List Instant
  openUntil : Option Instant

namespace HttpCircuitBreaker

/-- `HttpCircuitBreaker::new`. -/
def new (window : Duration) (threshold : ℕ) (openFor : Duration) : HttpCircuitBreaker :=
  ⟨window, max threshold 1, openFor, [], none⟩

/-- `HttpCircuitBreaker::allows_outbound`. -/
def allowsOutbound (self : HttpCircuitBreaker) (now : Instant) : Bool :=
  match self.openUntil with
  | some u => u ≤ now
  | none => true

/-- `HttpCircuitBreaker::is_open`. -/
def isOpen (self : HttpCircuitBreaker) (now : Instant) : Bool :=
  match self.openUntil with
  | some u => now < u
  | none => false

/-- The statuses that count as failures. -/
def isFailure (status : ℕ) : Bool := status == 401 || status == 403 || status == 429

/-- `HttpCircuitBreaker::record_status`. -/
def recordStatus (self : HttpCircuitBreaker) (status : ℕ) (now : Instant) : HttpCircuitBreaker :=
  if isFailure status then
    let failures := trimFront self.window now (self.failures ++ [now])
    { self with
      failures := failures
      openUntil := if failures.length ≥ self.threshold then some (now + self.openFor)
        else self.openUntil }
  else self

/-- The two tests of the breaker are complementary. -/
theorem allowsOutbound_eq (self : HttpCircuitBreaker) (now : Instant) :
    self.allowsOutbound now = !self.isOpen now := by
  unfold allowsOutbound isOpen
  cases self.openUntil with
  | none => rfl
  | some u =>
    by_cases h : now < u
    · simp [h]
    · simp [h, Nat.not_lt.1 h]

end HttpCircuitBreaker

/-! ### Session budget -/

/-- `SessionBudget`. -/
structure SessionBudget where
  total : ℕ
  remaining : ℕ
  resetAfterSecs : ℕ
  lowWatermark : ℕ

/-- `SessionBudget::new`. -/
def SessionBudget.new (total remaining resetAfterSecs lowWatermark : ℕ) : SessionBudget :=
  ⟨total, remaining, resetAfterSecs, max lowWatermark 1⟩

/-- `SessionBudget::is_low`. -/
def SessionBudget.isLow (self : SessionBudget) : Bool := self.remaining ≤ self.lowWatermark

/-! ### Cooldowns -/

/-- `CooldownMap`. -/
structure CooldownMap where
  ttl : Duration
  nextAllowed : KeyMap UInt64 Instant

/-- `CooldownMap::new`. -/
def CooldownMap.new (ttl : Duration) : CooldownMap := ⟨ttl, KeyMap.empty⟩

/-- `CooldownMap::is_cooling`. -/
def CooldownMap.isCooling (self : CooldownMap) (key : UInt64) (now : Instant) : Bool :=
  (self.nextAllowed.get? key).any fun next => now < next

/-- `CooldownMap::mark`. -/
def CooldownMap.mark (self : CooldownMap) (key : UInt64) (now : Instant) : CooldownMap :=
  { self with nextAllowed := self.nextAllowed.insert key (now + self.ttl) }

end OoBot
