import OoBot.Audit.Atomic
import OoBot.Infra.DiscordHandler
import OoBot.Tui.AuditView

/-!
# Mode filters and recorded modes

The handler records a mode by its `Debug` text, and the filters of the audit screen are written like the
names in a configuration.  No recorded decision passes any filter (`debug_notMem_modeFilters`), so the
filters partition the log of the handler only if it is empty (`mode_filters_partition_iff`).
-/

namespace OoBot

/-! ### Rows and filters -/

/-- The audit screen with a filter. -/
def AuditState.filtered (audit : AuditState) (modeFilter : Option Text) : AuditState :=
  { audit with modeFilter := modeFilter }

/-- Every row is shown under exactly one of the filters, and they show together what is shown
without a filter. -/
structure AuditState.Partitions (audit : AuditState) : Prop where
  unique : ∀ row ∈ audit.rows,
    ∃! mode, mode ∈ modeFilters ∧ row ∈ filteredAuditRows (audit.filtered (some mode))
  union : ∀ row, row ∈ filteredAuditRows (audit.filtered none) ↔
    ∃ mode ∈ modeFilters, row ∈ filteredAuditRows (audit.filtered (some mode))

section Filters

variable {audit : AuditState} {row : AuditRow} {mode : Text}

/-- Without a search every row is shown if there is no filter. -/
theorem mem_unfiltered (hsearch : trim audit.search = []) :
    row ∈ filteredAuditRows (audit.filtered none) ↔ row ∈ audit.rows := by
  rw [mem_filteredAuditRows]
  unfold AuditState.shows AuditState.filtered
  rw [hsearch]
  exact and_iff_left rfl

/-- Without a search a filter shows the rows of its mode. -/
theorem mem_filtered (hsearch : trim audit.search = []) :
    row ∈ filteredAuditRows (audit.filtered (some mode)) ↔
      row ∈ audit.rows ∧ row.columns.mode = mode := by
  rw [mem_filteredAuditRows]
  unfold AuditState.shows AuditState.filtered
  rw [hsearch]
  exact and_congr_right fun _ => beq_iff_eq

/-- The filters partition the rows that have one of their modes. -/
theorem partitions_iff (hsearch : trim audit.search = []) :
    audit.Partitions ↔ ∀ row ∈ audit.rows, row.columns.mode ∈ modeFilters := by
  constructor
  · intro h row hrow
    obtain ⟨mode, ⟨hmode, hshown⟩, -⟩ := h.unique row hrow
    rw [((mem_filtered hsearch).1 hshown).2]
    exact hmode
  · intro h
    refine ⟨fun row hrow => ?_, fun row => ?_⟩
    · refine ⟨row.columns.mode, ⟨h row hrow, (mem_filtered hsearch).2 ⟨hrow, rfl⟩⟩, ?_⟩
      rintro mode ⟨-, hshown⟩
      exact ((mem_filtered hsearch).1 hshown).2.symm
    · rw [mem_unfiltered hsearch]
      constructor
      · intro hrow
        exact ⟨row.columns.mode, h row hrow, (mem_filtered hsearch).2 ⟨hrow, rfl⟩⟩
      · rintro ⟨mode, -, hshown⟩
        exact ((mem_filtered hsearch).1 hshown).1

end Filters

/-! ### What the handler records -/

/-- A call of `record_decision_audit`: the handler, the last detection and the message that it finds,
and the store with its faults. -/
structure DecisionAudit where
  handler : Handler
  detection : Option DetectionReport
  msg : Message
  decision : ActionDecision
  processingTimeMs : UInt64
  store : AuditStore
  clock : Except Text Text
  manifestClock : Except Text Text
  fails : AuditStatement → Option Text

/-- The call of `record_event` that it makes, if there is a store. -/
def DecisionAudit.attempt (texts : EventTexts) (call : DecisionAudit) : Option RecordAttempt :=
  if call.handler.audit then
    some
      { input := call.handler.decisionEvent texts call.detection call.msg call.decision
          call.processingTimeMs
        clock := call.clock
        manifestClock := call.manifestClock
        store := call.store
        fails := call.fails }
  else none

/-- The log after calls of `record_decision_audit`. -/
def decisionLog (texts : EventTexts) (crypto : AuditCrypto) (calls : List DecisionAudit) :
    AuditTable :=
  (RecordAttempt.run crypto (calls.filterMap fun call => call.attempt texts)).events

namespace RecordAttempt

variable {crypto : AuditCrypto} {call : RecordAttempt} {db : AuditDb} {row : AuditRow}

/-- A call adds no row but one with the mode of its event. -/
theorem mode_of_mem_step (hrow : row ∈ (step crypto db call).events.rows) :
    row ∈ db.events.rows ∨ row.columns.mode = call.input.mode := by
  have hinserted {tsUtc : Text} (h : row ∈ (inserted crypto call db tsUtc).events.rows) :
      row ∈ db.events.rows ∨ row.columns.mode = call.input.mode := by
    rcases List.mem_append.1 h with h | h
    · exact Or.inl h
    · rw [List.mem_singleton.1 h]
      exact Or.inr rfl
  unfold step at hrow
  rcases recordEvent_cases crypto call db with ⟨-, err, herr⟩ |
    ⟨tsUtc, -, ⟨-, hok⟩ | ⟨-, -, tsUtc', hok⟩ | ⟨-, err, herr⟩⟩
  · rw [herr] at hrow
    exact Or.inl hrow
  · rw [hok] at hrow
    exact hinserted hrow
  · rw [hok] at hrow
    exact hinserted hrow
  · rw [herr] at hrow
    exact hinserted hrow

/-- Every row has the mode of the event of some call. -/
theorem mode_of_mem_run {calls : List RecordAttempt}
    (hrow : row ∈ (run crypto calls).events.rows) :
    ∃ call ∈ calls, row.columns.mode = call.input.mode := by
  induction calls using List.reverseRecOn with
  | nil => cases hrow
  | append_singleton calls call ih =>
    rw [run_concat] at hrow
    rcases mode_of_mem_step hrow with hrow | hmode
    · obtain ⟨call', hmem, hmode⟩ := ih hrow
      exact ⟨call', List.mem_append_left _ hmem, hmode⟩
    · exact ⟨call, List.mem_append_right _ List.mem_cons_self, hmode⟩

end RecordAttempt

/-- The `Debug` text of a mode is no filter. -/
theorem debug_notMem_modeFilters (mode : RuntimeMode) : mode.debug ∉ modeFilters := by
  cases mode <;> decide

/-- A row of the log has the `Debug` text of a mode. -/
theorem mode_of_mem_decisionLog {texts : EventTexts} {crypto : AuditCrypto}
    {calls : List DecisionAudit} {row : AuditRow} (hrow : row ∈ (decisionLog texts crypto calls).rows) :
    ∃ mode : RuntimeMode, row.columns.mode = mode.debug := by
  obtain ⟨attempt, hattempt, hmode⟩ := RecordAttempt.mode_of_mem_run hrow
  obtain ⟨call, -, hcall⟩ := List.mem_filterMap.1 hattempt
  unfold DecisionAudit.attempt at hcall
  split_ifs at hcall
  cases hcall
  exact ⟨call.decision.mode, hmode⟩

/-- **When the filters partition the log.**  For rows that were recorded by `record_decision_audit`, in
whatever calls with whatever faults, and without a search: the filters of the audit screen partition
the rows only if there are none. -/
theorem mode_filters_partition_iff (texts : EventTexts) (crypto : AuditCrypto)
    (calls : List DecisionAudit) (audit : AuditState) (hsearch : trim audit.search = [])
    (hrows : ∀ row ∈ audit.rows, row ∈ (decisionLog texts crypto calls).rows) :
    audit.Partitions ↔ audit.rows = [] := by
  rw [partitions_iff hsearch]
  constructor
  · intro h
    refine List.eq_nil_iff_forall_not_mem.2 fun row hrow => ?_
    obtain ⟨mode, hmode⟩ := mode_of_mem_decisionLog (hrows row hrow)
    refine debug_notMem_modeFilters mode ?_
    rw [← hmode]
    exact h row hrow
  · intro h row hrow
    rw [h] at hrow
    cases hrow

/-- A decision to react, in the normal mode, that is recorded without a fault. -/
def normalDecision : DecisionAudit where
  handler := Handling.auditingHandler
  detection := none
  msg := ⟨TrustedCore.firstMessage, "oo".toList⟩
  decision := ⟨canonicalBotConfig.reaction.action, .normal, .reactOnce, .none, none⟩
  processingTimeMs := 1
  store := ⟨.readWrite, none, 100, 100⟩
  clock := .ok "2024-01-01T00:00:00Z".toList
  manifestClock := .ok "2024-01-01T00:00:00Z".toList
  fails := fun _ => none

/-- The audit screen with the log of that decision. -/
def normalScreen : AuditState :=
  ⟨(decisionLog ⟨id, id⟩ .sha2 [normalDecision]).rows, [], [], .newestFirst, none⟩

theorem mode_filters_partition_iff_normal : normalScreen.Partitions ↔ normalScreen.rows = [] :=
  mode_filters_partition_iff ⟨id, id⟩ .sha2 [normalDecision] normalScreen rfl fun _ h => h

/-- The decision is in the log, and no filter shows it. -/
theorem normal_decision_unfiltered :
    normalScreen.rows.map (fun row => row.columns.mode) = ["Normal".toList] ∧
      (∀ mode ∈ modeFilters, ∀ row, row ∉ filteredAuditRows (normalScreen.filtered (some mode))) ∧
      ¬ normalScreen.Partitions := by
  have hmodes : normalScreen.rows.map (fun row => row.columns.mode) = ["Normal".toList] := rfl
  have hmode {row : AuditRow} (hrow : row ∈ normalScreen.rows) :
      row.columns.mode = "Normal".toList := by
    have hmem := List.mem_map_of_mem (f := fun row => row.columns.mode) hrow
    rw [hmodes] at hmem
    exact List.mem_singleton.1 hmem
  refine ⟨hmodes, fun mode hfilter row hshown => ?_, fun h => ?_⟩
  · obtain ⟨hrow, rfl⟩ := (mem_filtered rfl).1 hshown
    rw [hmode hrow] at hfilter
    exact absurd hfilter (by decide)
  · have hempty : normalScreen.rows = [] := by
      refine List.eq_nil_iff_forall_not_mem.2 fun row hrow => ?_
      have hfilter := (partitions_iff rfl).1 h row hrow
      rw [hmode hrow] at hfilter
      exact absurd hfilter (by decide)
    rw [hempty] at hmodes
    cases hmodes

end OoBot
