import OoBot.Audit.History

/-!
# Tampering with a row

A row states the facts of an event twice, in its columns and in its payload, and only the payload is
hashed.  `verify` compares no column with the payload: of all changes of one column of an honest log it
finds those of the two hashes and of the payload (`tamper_detected_iff`).
-/

namespace OoBot

/-- The columns of type `TEXT`. -/
inductive TextColumn
  | tsUtc
  | eventType
  | binaryVersion
  | configFingerprint
  | detectorBackend
  | matchedReadingsJson
  | selectedAction
  | suppressedReason
  | mode
  | activeLsm
  | hardeningStatus
  | suspiciousFlagsJson
  | pseudoGuildId
  | pseudoChannelId
  | pseudoUserId
  | pseudoMessageId
  | prevHash
  | rowHash
  | normalizedPayloadJson
  deriving DecidableEq, Repr

/-- The columns of type `INTEGER` besides the key. -/
inductive IntegerColumn
  | schemaVersion
  | sequenceHits
  | kanjiHits
  | totalCount
  | specialPhraseHit
  | processingTimeMs
  | messageLength
  | normalizedLength
  | tokenCount
  | truncatedFlag
  deriving DecidableEq, Repr

namespace AuditColumns

/-- The value of a text column. -/
def text (row : AuditColumns) : TextColumn → Text
  | .tsUtc => row.tsUtc
  | .eventType => row.eventType
  | .binaryVersion => row.binaryVersion
  | .configFingerprint => row.configFingerprint
  | .detectorBackend => row.detectorBackend
  | .matchedReadingsJson => row.matchedReadingsJson
  | .selectedAction => row.selectedAction
  | .suppressedReason => row.suppressedReason
  | .mode => row.mode
  | .activeLsm => row.activeLsm
  | .hardeningStatus => row.hardeningStatus
  | .suspiciousFlagsJson => row.suspiciousFlagsJson
  | .pseudoGuildId => row.pseudoGuildId
  | .pseudoChannelId => row.pseudoChannelId
  | .pseudoUserId => row.pseudoUserId
  | .pseudoMessageId => row.pseudoMessageId
  | .prevHash => row.prevHash
  | .rowHash => row.rowHash
  | .normalizedPayloadJson => row.normalizedPayloadJson

/-- The row with another value in a text column. -/
def setText (row : AuditColumns) (column : TextColumn) (value : Text) : AuditColumns :=
  match column with
  | .tsUtc => { row with tsUtc := value }
  | .eventType => { row with eventType := value }
  | .binaryVersion => { row with binaryVersion := value }
  | .configFingerprint => { row with configFingerprint := value }
  | .detectorBackend => { row with detectorBackend := value }
  | .matchedReadingsJson => { row with matchedReadingsJson := value }
  | .selectedAction => { row with selectedAction := value }
  | .suppressedReason => { row with suppressedReason := value }
  | .mode => { row with mode := value }
  | .activeLsm => { row with activeLsm := value }
  | .hardeningStatus => { row with hardeningStatus := value }
  | .suspiciousFlagsJson => { row with suspiciousFlagsJson := value }
  | .pseudoGuildId => { row with pseudoGuildId := value }
  | .pseudoChannelId => { row with pseudoChannelId := value }
  | .pseudoUserId => { row with pseudoUserId := value }
  | .pseudoMessageId => { row with pseudoMessageId := value }
  | .prevHash => { row with prevHash := value }
  | .rowHash => { row with rowHash := value }
  | .normalizedPayloadJson => { row with normalizedPayloadJson := value }

/-- The value of an integer column. -/
def integer (row : AuditColumns) : IntegerColumn → ℤ
  | .schemaVersion => row.schemaVersion
  | .sequenceHits => row.sequenceHits
  | .kanjiHits => row.kanjiHits
  | .totalCount => row.totalCount
  | .specialPhraseHit => row.specialPhraseHit
  | .processingTimeMs => row.processingTimeMs
  | .messageLength => row.messageLength
  | .normalizedLength => row.normalizedLength
  | .tokenCount => row.tokenCount
  | .truncatedFlag => row.truncatedFlag

/-- The row with another value in an integer column. -/
def setInteger (row : AuditColumns) (column : IntegerColumn) (value : ℤ) : AuditColumns :=
  match column with
  | .schemaVersion => { row with schemaVersion := value }
  | .sequenceHits => { row with sequenceHits := value }
  | .kanjiHits => { row with kanjiHits := value }
  | .totalCount => { row with totalCount := value }
  | .specialPhraseHit => { row with specialPhraseHit := value }
  | .processingTimeMs => { row with processingTimeMs := value }
  | .messageLength => { row with messageLength := value }
  | .normalizedLength => { row with normalizedLength := value }
  | .tokenCount => { row with tokenCount := value }
  | .truncatedFlag => { row with truncatedFlag := value }

end AuditColumns

/-- Another value for one column. -/
inductive ColumnChange
  | text (column : TextColumn) (value : Text)
  | integer (column : IntegerColumn) (value : ℤ)

namespace ColumnChange

/-- The row after a change. -/
def apply (change : ColumnChange) (row : AuditColumns) : AuditColumns :=
  match change with
  | .text column value => row.setText column value
  | .integer column value => row.setInteger column value

/-- The new value differs from the one in the row. -/
def Differs (change : ColumnChange) (row : AuditColumns) : Prop :=
  match change with
  | .text column value => value ≠ row.text column
  | .integer column value => value ≠ row.integer column

instance (change : ColumnChange) (row : AuditColumns) : Decidable (change.Differs row) :=
  match change with
  | .text column value => inferInstanceAs (Decidable (value ≠ row.text column))
  | .integer column value => inferInstanceAs (Decidable (value ≠ row.integer column))

/-- The change is of one of the hashes or of the payload. -/
def IsHashed : ColumnChange → Prop
  | .text column _ =>
      column = .prevHash ∨ column = .rowHash ∨ column = .normalizedPayloadJson
  | .integer _ _ => False

end ColumnChange

/-- `UPDATE audit_events SET … WHERE event_id = …`, past the triggers. -/
def AuditTable.update (t : AuditTable) (eventId : ℤ) (f : AuditColumns → AuditColumns) :
    AuditTable where
  rows := t.rows.map fun row =>
    if row.eventId = eventId then { row with columns := f row.columns } else row
  sorted := by
    rw [List.pairwise_map]
    refine t.sorted.imp fun {a b} hab => ?_
    split_ifs <;> exact hab

section Tamper

variable {crypto : AuditCrypto} {t : AuditTable}

/-- An update changes the row with the given key. -/
theorem update_rows {before after : List AuditRow} {row : AuditRow}
    (h : t.rows = before ++ row :: after) (f : AuditColumns → AuditColumns) :
    (t.update row.eventId f).rows =
      before ++ { row with columns := f row.columns } :: after := by
  have hsorted := t.sorted
  rw [h] at hsorted
  obtain ⟨-, hrest, hbefore⟩ := List.pairwise_append.1 hsorted
  have hbefore' : ∀ r ∈ before, r.eventId ≠ row.eventId :=
    fun r hr => ne_of_lt (hbefore r hr row List.mem_cons_self)
  have hafter : ∀ r ∈ after, r.eventId ≠ row.eventId :=
    fun r hr => ne_of_gt ((List.pairwise_cons.1 hrest).1 r hr)
  unfold AuditTable.update
  simp only [h, List.map_append, List.map_cons, if_true]
  rw [List.map_congr_left fun r hr => if_neg (hbefore' r hr),
    List.map_congr_left fun r hr => if_neg (hafter r hr), List.map_id', List.map_id']

/-- A change of another column leaves the entry of the chain as it is. -/
theorem entry_apply {change : ColumnChange} (h : ¬ change.IsHashed) (row : AuditRow) :
    ({ row with columns := change.apply row.columns } : AuditRow).entry = row.entry := by
  cases change with
  | integer column value => cases column <;> rfl
  | text column value =>
    have hno : column ≠ .prevHash ∧ column ≠ .rowHash ∧ column ≠ .normalizedPayloadJson := by
      simpa [ColumnChange.IsHashed, not_or] using h
    obtain ⟨hprev, hhash, hpayload⟩ := hno
    cases column with
    | prevHash => exact absurd rfl hprev
    | rowHash => exact absurd rfl hhash
    | normalizedPayloadJson => exact absurd rfl hpayload
    | _ => rfl

/-- What the chain says about a row in the middle. -/
theorem AuditTable.Intact.row_linked {before after : List AuditRow} {row : AuditRow}
    (h : t.Intact crypto) (hrows : t.rows = before ++ row :: after) :
    row.columns.prevHash = HashChain.head genesis (before.map AuditRow.entry) ∧
      computeRowHash crypto row.columns.prevHash row.columns.normalizedPayloadJson =
        row.columns.rowHash := by
  unfold Intact entries at h
  rw [hrows, List.map_append, List.map_cons, HashChain.linked_append] at h
  exact ⟨h.2.1, h.2.2.1⟩

/-- A change of a hash or of the payload breaks the chain. -/
theorem AuditTable.Intact.not_intact_update (h : t.Intact crypto) {row : AuditRow}
    (hrow : row ∈ t.rows) {change : ColumnChange} (hdiff : change.Differs row.columns)
    (hhashed : change.IsHashed)
    (hcoll : ∀ b ∈ t.hashedBytes ++ (t.update row.eventId change.apply).hashedBytes,
      ∀ b' ∈ t.hashedBytes ++ (t.update row.eventId change.apply).hashedBytes,
      crypto.sha256Hex b = crypto.sha256Hex b' → b = b') :
    ¬ (t.update row.eventId change.apply).Intact crypto := by
  intro h'
  obtain ⟨before, after, hrows⟩ := List.append_of_mem hrow
  have hrows' := update_rows hrows change.apply
  obtain ⟨hprev, hhash⟩ := h.row_linked hrows
  obtain ⟨hprev', hhash'⟩ := h'.row_linked hrows'
  cases change with
  | integer column value => exact hhashed
  | text column value =>
    rcases hhashed with rfl | rfl | rfl
    · exact hdiff (hprev'.trans hprev.symm)
    · exact hdiff (hhash'.symm.trans hhash)
    · -- the digest of the new payload is that of the old one
      have hold : utf8 row.columns.prevHash ++ utf8 row.columns.normalizedPayloadJson ∈
          t.hashedBytes := List.mem_map.2 ⟨row, hrow, rfl⟩
      have hrow' : { row with columns :=
          (ColumnChange.text .normalizedPayloadJson value).apply row.columns } ∈
          (t.update row.eventId (ColumnChange.text .normalizedPayloadJson value).apply).rows := by
        rw [hrows']
        exact List.mem_append_right before List.mem_cons_self
      have hnew : utf8 row.columns.prevHash ++ utf8 value ∈
          (t.update row.eventId (ColumnChange.text .normalizedPayloadJson value).apply).hashedBytes :=
        List.mem_map.2 ⟨_, hrow', rfl⟩
      have hbytes := hcoll _ (List.mem_append_right _ hnew) _ (List.mem_append_left _ hold)
        (hhash'.trans hhash.symm)
      exact hdiff (utf8_injective (List.append_cancel_left hbytes))

/-- `verify` reports a broken row exactly when the rows are no hash chain. -/
theorem detects_iff : (∃ report, t.verify crypto none none = .ok report ∧ 0 < report.brokenRows) ↔
    ¬ t.Intact crypto := by
  rw [← verifies_all_iff]
  constructor
  · rintro ⟨report, hr, hpos⟩ ⟨report', hr', hzero⟩
    rw [hr] at hr'
    injection hr' with hr'
    rw [← hr'] at hzero
    omega
  · intro h
    refine ⟨_, rfl, ?_⟩
    by_contra hzero
    exact h ⟨_, rfl, by omega⟩

/-- **Which tampering `verify` detects.**  In an honest log, another value in one column of one row is
reported exactly when the column is one of the hashes or the payload. -/
theorem tamper_detected_iff {store : AuditStore} {calls : List RecordCall} {db : AuditDb}
    (h : store.recordAll crypto .empty calls = .ok db) {row : AuditRow}
    (hrow : row ∈ db.events.rows) {change : ColumnChange} (hdiff : change.Differs row.columns)
    (hcoll : ∀ b ∈ db.events.hashedBytes ++
        (db.events.update row.eventId change.apply).hashedBytes,
      ∀ b' ∈ db.events.hashedBytes ++ (db.events.update row.eventId change.apply).hashedBytes,
      crypto.sha256Hex b = crypto.sha256Hex b' → b = b') :
    (∃ report, (db.events.update row.eventId change.apply).verify crypto none none = .ok report ∧
        0 < report.brokenRows) ↔
      change.IsHashed := by
  have hintact := (honest_of_recordAll honest_empty h).1.intact
  rw [detects_iff]
  constructor
  · intro hbroken
    by_contra hno
    obtain ⟨before, after, hrows⟩ := List.append_of_mem hrow
    have hentries : (db.events.update row.eventId change.apply).entries = db.events.entries := by
      unfold AuditTable.entries
      rw [update_rows hrows, hrows, List.map_append, List.map_append, List.map_cons,
        List.map_cons, entry_apply hno]
    refine hbroken ?_
    unfold AuditTable.Intact
    rw [hentries]
    exact hintact
  · exact fun hhashed => hintact.not_intact_update hrow hdiff hhashed hcoll

/-- The history of one call that leaves `startTable` behind. -/
theorem recordAll_startTable :
    AuditStore.recordAll .sha2 ⟨.readWrite, none, 100, 100⟩ .empty
      [⟨{ eventType := .processStart }, .ok "2024-01-01T00:00:00Z".toList, .ok []⟩] =
      .ok ⟨startTable, []⟩ := rfl

/-- Another payload is detected. -/
theorem payload_tamper_detected :
    ∃ report, (startTable.update 1
      (ColumnChange.text .normalizedPayloadJson "\x7b\x7d".toList).apply).verify .sha2 none none =
        .ok report ∧ 0 < report.brokenRows :=
  (@tamper_detected_iff .sha2 _ _ _ recordAll_startTable ⟨1, startColumns⟩
    (List.mem_singleton.2 rfl) (.text .normalizedPayloadJson "\x7b\x7d".toList) (by decide +kernel)
    (by decide +kernel)).2 (Or.inr (Or.inr rfl))

/-- Another action is not. -/
theorem action_tamper_not_detected :
    AuditStore.recordAll .sha2 ⟨.readWrite, none, 100, 100⟩ .empty
        [⟨{ eventType := .processStart }, .ok "2024-01-01T00:00:00Z".toList, .ok []⟩] =
        .ok ⟨startTable, []⟩ ∧
      startColumns.selectedAction ≠ "tampered".toList ∧
      ∃ report, (startTable.update 1
        (ColumnChange.text .selectedAction "tampered".toList).apply).verify .sha2 none none =
          .ok report ∧ report.brokenRows = 0 := by
  refine ⟨recordAll_startTable, by decide +kernel, ?_⟩
  have hentries : (startTable.update 1
      (ColumnChange.text .selectedAction "tampered".toList).apply).entries = startTable.entries :=
    rfl
  refine verifies_all_iff.2 ?_
  unfold AuditTable.Intact
  rw [hentries]
  exact startTable_intact

end Tamper

end OoBot
