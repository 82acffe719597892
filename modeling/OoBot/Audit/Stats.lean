import Mathlib.Data.Char
import Mathlib.Data.List.Lex
import OoBot.Audit.History
import OoBot.Audit.Query
import OoBot.Lib.KeySorted
import OoBot.Lib.Tally

/-!
# Counting and looking up events

`stats` and `inspect` of `src/audit/mod.rs`.  `stats` counts over what a query reads (`stats_eq`), so
what it says of a value is the number of rows of the query with that value as its filter
(`stats_query`).  `inspect` finds the row of a call by the identifier that the call returned, for ever
(`inspect_recorded`).
-/

namespace OoBot

/-- `AuditStats`. -/
structure AuditStats where
  total : ℕ
  byEventType : Tally Text
  byBackend : Tally Text
  bySuppressedReason : Tally Text
  byMode : Tally Text

namespace AuditStats

/-- The loop of `stats` for one event. -/
def count (stats : AuditStats) (event : AuditRow) : AuditStats where
  total := stats.total
  byEventType := stats.byEventType.add event.columns.eventType
  byBackend := stats.byBackend.add event.columns.detectorBackend
  bySuppressedReason :=
    if event.columns.suppressedReason.isEmpty then stats.bySuppressedReason
    else stats.bySuppressedReason.add event.columns.suppressedReason
  byMode := stats.byMode.add event.columns.mode

end AuditStats

/-- `stats`. -/
def AuditTable.stats (t : AuditTable) (queryMaxRows : ℕ) (filter : AuditQueryFilter) : AuditStats :=
  let events := t.queryEventsCapped queryMaxRows filter
  events.foldl AuditStats.count ⟨events.length, .empty, .empty, .empty, .empty⟩

/-- `inspect`. -/
def AuditTable.inspect (t : AuditTable) (eventId : ℤ) : Option AuditRow :=
  t.rows.find? fun row => row.eventId = eventId

/-! ### Counts -/

/-- The reasons that `stats` counts. -/
def countedReasons (events : List AuditRow) : List Text :=
  (events.map fun row => row.columns.suppressedReason).filter fun reason => !reason.isEmpty

/-- The loop counts every event in each of its tallies. -/
theorem foldl_count (events : List AuditRow) (stats : AuditStats) :
    events.foldl AuditStats.count stats =
      { total := stats.total
        byEventType := (events.map fun row => row.columns.eventType).foldl (fun t k => t.add k)
          stats.byEventType
        byBackend := (events.map fun row => row.columns.detectorBackend).foldl (fun t k => t.add k)
          stats.byBackend
        bySuppressedReason := (countedReasons events).foldl (fun t k => t.add k)
          stats.bySuppressedReason
        byMode := (events.map fun row => row.columns.mode).foldl (fun t k => t.add k)
          stats.byMode } := by
  induction events generalizing stats with
  | nil => rfl
  | cons event events ih =>
    rw [List.foldl_cons, ih]
    unfold AuditStats.count countedReasons
    by_cases hreason : event.columns.suppressedReason.isEmpty
    · simp [hreason]
    · simp [hreason]

/-- `stats` counts over the rows that the query reads. -/
theorem stats_eq (t : AuditTable) (queryMaxRows : ℕ) (filter : AuditQueryFilter) :
    t.stats queryMaxRows filter =
      let events := t.queryEventsCapped queryMaxRows filter
      { total := events.length
        byEventType := .of (events.map fun row => row.columns.eventType)
        byBackend := .of (events.map fun row => row.columns.detectorBackend)
        bySuppressedReason := .of (countedReasons events)
        byMode := .of (events.map fun row => row.columns.mode) } := by
  unfold AuditTable.stats
  simp only [foldl_count]
  rfl

/-- The reason that is left out is the empty one. -/
theorem get_of_countedReasons {reason : Text} (hreason : reason ≠ []) (events : List AuditRow) :
    (Tally.of (countedReasons events)).get reason =
      (Tally.of (events.map fun row => row.columns.suppressedReason)).get reason := by
  rw [Tally.get_of, Tally.get_of, countedReasons, List.countP_filter]
  refine List.countP_congr fun r _ => ?_
  cases r with
  | nil => simp [hreason.symm]
  | cons c r => simp

/-- What is counted for a value is the number of rows that a query with that value reads. -/
theorem get_of_query (t : AuditTable) (queryMaxRows : ℕ) (f : AuditRow → Text) (value : Text)
    {filter filter' : AuditQueryFilter} (hlimit : filter'.limit = filter.limit)
    (h : ∀ row : AuditRow, passesFilter row.columns filter' =
      (decide (f row = value) && passesFilter row.columns filter)) :
    (Tally.of ((t.queryEventsCapped queryMaxRows filter).map f)).get value =
      (t.queryEventsCapped queryMaxRows filter').length := by
  have hquery : t.queryEventsCapped queryMaxRows filter' =
      (t.queryEventsCapped queryMaxRows filter).filter fun row => decide (f row = value) := by
    unfold AuditTable.queryEventsCapped
    simp only [hlimit, List.filter_filter, h]
  rw [hquery, Tally.get_of, List.countP_map, List.countP_eq_length_filter]
  refine congrArg List.length (List.filter_congr fun row _ => ?_)
  by_cases hvalue : f row = value <;> simp [hvalue]

/-- **What `stats` says of a value** is the number of rows of the same query with that value as its
filter, and every row is counted once in each tally, but for rows without a reason. -/
theorem stats_query (t : AuditTable) (queryMaxRows : ℕ) (filter : AuditQueryFilter) (value : Text) :
    let stats := t.stats queryMaxRows filter
    let rows (filter' : AuditQueryFilter) := (t.queryEventsCapped queryMaxRows filter').length
    stats.total = rows filter ∧
    (filter.eventType = none → stats.byEventType.get value =
      rows { filter with eventType := some value }) ∧
    (filter.detectorBackend = none → stats.byBackend.get value =
      rows { filter with detectorBackend := some value }) ∧
    (filter.suppressedReason = none → value ≠ [] → stats.bySuppressedReason.get value =
      rows { filter with suppressedReason := some value }) ∧
    (filter.mode = none → stats.byMode.get value = rows { filter with mode := some value }) ∧
    stats.byEventType.total = stats.total ∧ stats.byBackend.total = stats.total ∧
    stats.byMode.total = stats.total ∧ (filter.suppressedReason = none →
      stats.bySuppressedReason.total + rows { filter with suppressedReason := some [] } =
        stats.total) := by
  intro stats rows
  have hstats : stats = _ := stats_eq t queryMaxRows filter
  rw [hstats]
  simp only [Tally.total_of, List.length_map, true_and]
  refine ⟨rfl, fun hnone => ?_, fun hnone => ?_, fun hnone hvalue => ?_, fun hnone => ?_,
    fun hnone => ?_⟩
  · refine get_of_query t queryMaxRows _ value rfl fun row => ?_
    simp only [passesFilter, hnone, Option.all_some, Option.all_none]
    grind
  · refine get_of_query t queryMaxRows _ value rfl fun row => ?_
    simp only [passesFilter, hnone, Option.all_some, Option.all_none]
    grind
  · rw [get_of_countedReasons hvalue]
    refine get_of_query t queryMaxRows _ value rfl fun row => ?_
    simp only [passesFilter, hnone, Option.all_some, Option.all_none]
    grind
  · refine get_of_query t queryMaxRows _ value rfl fun row => ?_
    simp only [passesFilter, hnone, Option.all_some, Option.all_none]
    grind
  · -- the rows that are left out are those with the empty reason
    have hempty : (Tally.of ((t.queryEventsCapped queryMaxRows filter).map fun row =>
        row.columns.suppressedReason)).get [] = rows { filter with suppressedReason := some [] } := by
      refine get_of_query t queryMaxRows _ [] rfl fun row => ?_
      simp only [passesFilter, hnone, Option.all_some, Option.all_none]
      grind
    rw [← hempty, Tally.get_of, countedReasons, ← List.countP_eq_length_filter, List.countP_map,
      List.countP_map, List.length_eq_countP_add_countP
        fun row : AuditRow => !row.columns.suppressedReason.isEmpty]
    refine congrArg₂ _ rfl (List.countP_congr fun row _ => ?_)
    simp

/-- A query without conditions reads the whole table, if the cap allows it. -/
theorem query_all (t : AuditTable) {queryMaxRows : ℕ} (hcap : t.rows.length ≤ queryMaxRows)
    (hmax : queryMaxRows < 2 ^ 63) : t.queryEventsCapped queryMaxRows {} = t.rows.reverse := by
  unfold AuditTable.queryEventsCapped
  simp only [Option.getD_none, Nat.min_self, limitRows_of_lt hmax]
  rw [List.take_of_length_le (by rw [List.length_reverse]; exact hcap)]
  exact List.filter_eq_self.2 fun row _ => rfl

/-- `stats` over the whole table. -/
theorem stats_all (t : AuditTable) {queryMaxRows : ℕ} (hcap : t.rows.length ≤ queryMaxRows)
    (hmax : queryMaxRows < 2 ^ 63) : t.stats queryMaxRows {} =
      { total := t.rows.length
        byEventType := .of (t.rows.map fun row => row.columns.eventType)
        byBackend := .of (t.rows.map fun row => row.columns.detectorBackend)
        bySuppressedReason := .of (countedReasons t.rows)
        byMode := .of (t.rows.map fun row => row.columns.mode) } := by
  have hperm := List.reverse_perm t.rows
  rw [stats_eq, query_all t hcap hmax]
  simp only [List.length_reverse, Tally.of_eq_of_iff.2 (hperm.map _),
    Tally.of_eq_of_iff.2 ((hperm.map _).filter _), countedReasons]

/-! ### The rows of a history -/

section History

variable {crypto : AuditCrypto} {store : AuditStore} {db db' : AuditDb} {calls : List RecordCall}

/-- The row is what the call has inserted. -/
def RecordCall.Inserted (crypto : AuditCrypto) (store : AuditStore) (call : RecordCall)
    (row : AuditRow) : Prop :=
  ∃ prevHash tsUtc, call.clock = .ok tsUtc ∧
    row.columns = store.columns crypto prevHash call.input tsUtc

/-- A history appends one row for each of its calls. -/
theorem recordAll_rows (h : store.recordAll crypto db calls = .ok db') :
    ∃ rows, db'.events.rows = db.events.rows ++ rows ∧
      List.Forall₂ (RecordCall.Inserted crypto store) calls rows := by
  induction calls generalizing db with
  | nil =>
    injection h with h
    subst h
    exact ⟨[], (List.append_nil _).symm, .nil⟩
  | cons call calls ih =>
    rw [AuditStore.recordAll] at h
    cases hstep : store.recordEvent crypto db call.input call.clock call.manifestClock with
    | error err =>
      rw [hstep] at h
      cases h
    | ok r =>
      obtain ⟨id, db₁⟩ := r
      rw [hstep] at h
      obtain ⟨-, tsUtc, hclock, -, hevents⟩ := recordEvent_ok hstep
      obtain ⟨rows, hrows, hall⟩ := ih h
      have hrow : call.Inserted crypto store
          ⟨db.events.nextId, store.columns crypto db.events.lastRowHash call.input tsUtc⟩ :=
        ⟨_, tsUtc, hclock, rfl⟩
      refine ⟨_ :: rows, ?_, .cons hrow hall⟩
      rw [hrows, hevents]
      exact List.append_assoc ..

/-- A store that may write and whose clock works records everything. -/
theorem exists_recordAll (hmode : store.mode = .readWrite)
    (hclock : ∀ call ∈ calls, ∃ tsUtc tsUtc', call.clock = .ok tsUtc ∧ call.manifestClock = .ok tsUtc')
    (db : AuditDb) : ∃ db', store.recordAll crypto db calls = .ok db' := by
  induction calls generalizing db with
  | nil => exact ⟨db, rfl⟩
  | cons call calls ih =>
    obtain ⟨tsUtc, tsUtc', hts, hts'⟩ := hclock call List.mem_cons_self
    have hstep : ∃ r, store.recordEvent crypto db call.input call.clock call.manifestClock = .ok r := by
      unfold AuditStore.recordEvent AuditStore.maybeCreateManifest
      rw [ensureWritable_eq_ok_iff.2 hmode, hts, hts']
      simp only [bind, Except.bind, pure, Except.pure]
      split_ifs <;> exact ⟨_, rfl⟩
    obtain ⟨⟨id, db₁⟩, hstep⟩ := hstep
    obtain ⟨db', hrest⟩ := ih (fun call' h => hclock call' (List.mem_cons_of_mem _ h)) db₁
    refine ⟨db', ?_⟩
    rw [AuditStore.recordAll, hstep]
    exact hrest

/-- A column that `record_event` takes from the event. -/
theorem map_rows {α : Type} {rows : List AuditRow} (f : AuditColumns → α) (g : AuditEventInput → α)
    (hfg : ∀ prevHash input tsUtc, f (store.columns crypto prevHash input tsUtc) = g input)
    (h : List.Forall₂ (RecordCall.Inserted crypto store) calls rows) :
    rows.map (fun row => f row.columns) = (calls.map RecordCall.input).map g := by
  induction h with
  | nil => rfl
  | cons hrow _ ih =>
    obtain ⟨prevHash, tsUtc, -, hcolumns⟩ := hrow
    rw [List.map_cons, ih, hcolumns, hfg]
    rfl

/-- A row is found by its identifier. -/
theorem inspect_eq_some_iff {t : AuditTable} {id : ℤ} {row : AuditRow} :
    t.inspect id = some row ↔ row ∈ t.rows ∧ row.eventId = id := by
  constructor
  · intro h
    exact ⟨List.mem_of_find?_eq_some h, by simpa using List.find?_some h⟩
  · rintro ⟨hrow, rfl⟩
    exact KeySorted.find?_eq_some t.sorted hrow

/-- **An identifier stays that of its row**: `inspect` finds nothing under an identifier before
`record_event` returns it, from then on, after all further calls, the row that was inserted, and what it
found before it finds again. -/
theorem inspect_recorded {db₁ : AuditDb} {id : ℤ} {call : RecordCall}
    (hcall : store.recordEvent crypto db call.input call.clock call.manifestClock = .ok (id, db₁))
    (hafter : store.recordAll crypto db₁ calls = .ok db') :
    db.events.inspect id = none ∧
    (∃ tsUtc, call.clock = .ok tsUtc ∧ db'.events.inspect id =
      some ⟨id, store.columns crypto db.events.lastRowHash call.input tsUtc⟩) ∧
    ∀ id' row, db.events.inspect id' = some row → db'.events.inspect id' = some row := by
  obtain ⟨-, tsUtc, hclock, rfl, hevents⟩ := recordEvent_ok hcall
  obtain ⟨rows, hrows, -⟩ := recordAll_rows hafter
  rw [hevents] at hrows
  refine ⟨?_, ⟨tsUtc, hclock, ?_⟩, fun id' row hrow => ?_⟩
  · refine List.find?_eq_none.2 fun row hrow => ?_
    have hlt := AuditTable.lt_nextId hrow
    simpa using ne_of_lt hlt
  · refine inspect_eq_some_iff.2 ⟨?_, rfl⟩
    rw [hrows]
    exact List.mem_append_left _ (List.mem_append_right _ (List.mem_singleton.2 rfl))
  · obtain ⟨hmem, hid⟩ := inspect_eq_some_iff.1 hrow
    refine inspect_eq_some_iff.2 ⟨?_, hid⟩
    rw [hrows]
    exact List.mem_append_left _ (List.mem_append_left _ hmem)

/-- The start of a process is recorded, and then its end. -/
theorem inspect_recorded_startTable : ∃ db, AuditStore.recordAll .sha2
      ⟨.readWrite, none, 100, 100⟩ ⟨startTable, []⟩
      [⟨{ eventType := .processShutdown }, .ok "2024-01-02T00:00:00Z".toList, .ok []⟩] = .ok db ∧
    AuditDb.empty.events.inspect 1 = none ∧ db.events.inspect 1 = some ⟨1, startColumns⟩ := by
  obtain ⟨db, hdb⟩ := @exists_recordAll .sha2 ⟨.readWrite, none, 100, 100⟩
    [⟨{ eventType := .processShutdown }, .ok "2024-01-02T00:00:00Z".toList, .ok []⟩] rfl
    (by simp) ⟨startTable, []⟩
  obtain ⟨hnone, ⟨tsUtc, hclock, hfound⟩, -⟩ := @inspect_recorded .sha2 _ .empty db _ ⟨startTable, []⟩ 1
    ⟨{ eventType := .processStart }, .ok "2024-01-01T00:00:00Z".toList, .ok []⟩ rfl hdb
  cases hclock
  exact ⟨db, hdb, hnone, hfound⟩

end History

end OoBot
