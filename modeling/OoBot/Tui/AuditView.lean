import OoBot.Audit.Query
import OoBot.Config.Load
import OoBot.Tui.Labels

/-!
# The audit screen

The state of the audit screen of `src/operator_tui.rs`, what is loaded into it, and the rows that it
shows.  The statistics of the screen are left out: they are only drawn.
-/

namespace OoBot

/-- `AuditSort`. -/
inductive AuditSort
  | newestFirst
  | oldestFirst
  | eventType
  | mode
  deriving DecidableEq

/-- `AuditState`. -/
structure AuditState where
  rows : List AuditRow
  status : Text
  search : Text
  sort : AuditSort
  modeFilter : Option Text

/-- The next order of the key `o`. -/
def nextAuditSort : AuditSort → AuditSort
  | .newestFirst => .oldestFirst
  | .oldestFirst => .eventType
  | .eventType => .mode
  | .mode => .newestFirst

/-- The next filter of the key `m`. -/
def nextModeFilter : Option Text → Option Text
  | none => some "normal".toList
  | some mode =>
      if mode = "normal".toList then some "observe_only".toList
      else if mode = "observe_only".toList then some "react_only".toList
      else if mode = "react_only".toList then some "audit_only".toList
      else if mode = "audit_only".toList then some "full_disable".toList
      else none

/-- The filters that the key goes through until it is back at none. -/
def modeFilters : List Text :=
  (List.range 5).filterMap fun n => nextModeFilter^[n + 1] none

example : nextModeFilter^[6] none = none := by decide

/-! ### Rows on the screen -/

/-- What the search looks through. -/
def searchedText (row : AuditColumns) : Text :=
  toAsciiLowercase ([' '].intercalate
    [row.eventType, row.detectorBackend, row.selectedAction, row.suppressedReason, row.mode])

/-- The rows that pass the search and the filter. -/
def AuditState.shows (audit : AuditState) (row : AuditRow) : Bool :=
  ((trim audit.search).isEmpty ||
      contains (searchedText row.columns) (toAsciiLowercase audit.search)) &&
    audit.modeFilter.all fun mode => row.columns.mode == mode

/-- `Ordering::then` on a text and the identifier: at most. -/
def textThenId (f : AuditColumns → Text) (a b : AuditRow) : Bool :=
  f a.columns < f b.columns || (f a.columns == f b.columns && decide (a.eventId ≤ b.eventId))

/-- `filtered_audit_rows`. -/
def filteredAuditRows (audit : AuditState) : List AuditRow :=
  let rows := audit.rows.filter audit.shows
  match audit.sort with
  | .newestFirst => rows.mergeSort fun a b => b.eventId ≤ a.eventId
  | .oldestFirst => rows.mergeSort fun a b => a.eventId ≤ b.eventId
  | .eventType => rows.mergeSort (textThenId (·.eventType))
  | .mode => rows.mergeSort (textThenId (·.mode))

/-- The order of the rows does not change what is shown. -/
theorem mem_filteredAuditRows {audit : AuditState} {row : AuditRow} :
    row ∈ filteredAuditRows audit ↔ row ∈ audit.rows ∧ audit.shows row = true := by
  unfold filteredAuditRows
  cases audit.sort
  all_goals exact List.mem_mergeSort.trans List.mem_filter

/-! ### Loading -/

/-- What is found where the database should be. -/
inductive AuditDbReply
  | missing
  | openFailed (err : Text)
  /-- The table, unless the query fails. -/
  | opened (table : Option AuditTable)

/-- `TUI_AUDIT_CAP`. -/
def tuiAuditCap : ℕ := 250

/-- `load_audit_state`. -/
def loadAuditState {F : Type} (catalog : UiCatalog) (reply : AuditDbReply)
    (startup : LoadedStartupConfig F) (auditLimit : ℕ) (language : UiLanguage) : AuditState :=
  let queryMaxRows := startup.app.audit.queryMaxRows
  match reply with
  | .missing => ⟨[], label catalog language "audit.status.missing_db", [], .newestFirst, none⟩
  | .openFailed err =>
      ⟨[], template catalog language "audit.status.open_failed" [("error", err)], [], .newestFirst,
        none⟩
  | .opened table =>
      let filter : AuditQueryFilter :=
        { limit := some (min (min auditLimit tuiAuditCap) queryMaxRows) }
      ⟨(table.map fun t => t.tail queryMaxRows filter).getD [],
        label catalog language "audit.status.ready", [], .newestFirst, none⟩

end OoBot
