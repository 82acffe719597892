import OoBot.Audit.Record

/-!
# Reading events back

`query_events_capped` and `tail` of `src/audit/mod.rs`.
-/

namespace OoBot

/-- `AuditQueryFilter`. -/
structure AuditQueryFilter where
  startTsUtc : Option Text := none
  endTsUtc : Option Text := none
  eventType : Option Text := none
  detectorBackend : Option Text := none
  suppressedReason : Option Text := none
  mode : Option Text := none
  limit : Option ℕ := none

/-- `passes_filter`. -/
def passesFilter (row : AuditColumns) (filter : AuditQueryFilter) : Bool :=
  filter.startTsUtc.all (fun start => !decide (row.tsUtc < start)) &&
    filter.endTsUtc.all (fun stop => !decide (stop < row.tsUtc)) &&
    filter.eventType.all (fun eventType => row.eventType == eventType) &&
    filter.detectorBackend.all (fun backend => row.detectorBackend == backend) &&
    filter.suppressedReason.all (fun reason => row.suppressedReason == reason) &&
    filter.mode.all fun mode => row.mode == mode

/-- `LIMIT ?1` with the argument `raw_limit as i64`: a negative limit is none. -/
def limitRows (rawLimit : ℕ) (rows : List AuditRow) : List AuditRow :=
  let limit := asI64 (UInt64.ofNat rawLimit)
  if limit < 0 then rows else rows.take limit.toNat

/-- `query_events_capped`. -/
def AuditTable.queryEventsCapped (t : AuditTable) (queryMaxRows : ℕ) (filter : AuditQueryFilter) :
    List AuditRow :=
  let rawLimit := min (filter.limit.getD queryMaxRows) queryMaxRows
  (limitRows rawLimit t.rows.reverse).filter fun row => passesFilter row.columns filter

/-- `tail`. -/
def AuditTable.tail (t : AuditTable) (queryMaxRows : ℕ) (filter : AuditQueryFilter) :
    List AuditRow :=
  let events := (t.queryEventsCapped queryMaxRows filter).mergeSort fun a b => b.eventId ≤ a.eventId
  events.take (min (filter.limit.getD 100) queryMaxRows)

/-- Limits in the range of `i64` are themselves. -/
theorem limitRows_of_lt {rawLimit : ℕ} (h : rawLimit < 2 ^ 63) (rows : List AuditRow) :
    limitRows rawLimit rows = rows.take rawLimit := by
  have hnat : (UInt64.ofNat rawLimit).toNat = rawLimit := by
    rw [UInt64.toNat_ofNat', Nat.mod_eq_of_lt (by omega)]
  have hlimit : asI64 (UInt64.ofNat rawLimit) = rawLimit := by
    rw [asI64_of_lt (by omega), hnat]
  unfold limitRows
  rw [hlimit]
  simp

/-- The tail of length one is the last row. -/
theorem tail_one (t : AuditTable) {queryMaxRows : ℕ} (h : 0 < queryMaxRows) :
    t.tail queryMaxRows { limit := some 1 } = t.rows.getLast?.toList := by
  have hlimit : min 1 queryMaxRows = 1 := by omega
  have hlast : t.rows.reverse.take 1 = t.rows.getLast?.toList := by
    rw [← List.head?_reverse]
    cases t.rows.reverse with
    | nil => rfl
    | cons row rows => rfl
  unfold AuditTable.tail AuditTable.queryEventsCapped
  simp only [Option.getD_some, hlimit, limitRows_of_lt (by decide : 1 < 2 ^ 63), hlast]
  cases t.rows.getLast? with
  | none => simp
  | some row => simp [passesFilter]

end OoBot
