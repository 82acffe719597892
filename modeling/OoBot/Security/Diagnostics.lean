import OoBot.Audit.History
import OoBot.Audit.Query

/-!
# The health check of the audit log

`check_audit_health` of `src/security/diagnostics.rs` verifies the last rows of the audit database.
What the file system and SQLite answer is the parameter `AuditFile`.

An honest log verifies on every window, and its health check passes (`honest_log_verifies`).
-/

namespace OoBot

/-- `CheckStatus`. -/
inductive CheckStatus
  | pass
  | warn
  | fail
  deriving DecidableEq, Repr

/-- `SelfCheckItem`. -/
structure SelfCheckItem where
  name : Text
  status : CheckStatus
  detail : Text

/-- The database file: missing, not readable with an error, or readable. -/
inductive AuditFile
  | missing
  | unreadable (err : Text)
  | readable (t : AuditTable)

/-- Saturation to the range of `i64`. -/
def clampI64 (n : ℤ) : ℤ := max (-9223372036854775808) (min n 9223372036854775807)

/-- An item of `check_audit_health`. -/
def auditHealthItem (status : CheckStatus) (detail : Text) : SelfCheckItem :=
  ⟨"audit_db_health".toList, status, detail⟩

/-- `check_audit_health`. -/
def checkAuditHealth (crypto : AuditCrypto) (file : AuditFile) (queryMaxRows : ℕ)
    (maxRows : UInt64) : SelfCheckItem :=
  match file with
  | .missing => auditHealthItem .warn "audit sqlite does not exist yet".toList
  | .unreadable err => auditHealthItem .fail ("failed to open audit sqlite: ".toList ++ err)
  | .readable t =>
      match t.tail queryMaxRows { limit := some 1 } with
      | [] => auditHealthItem .pass "audit db is empty".toList
      | last :: _ =>
          let stop := last.eventId
          let start := clampI64 (clampI64 (stop - asI64 maxRows) + 1)
          match t.verify crypto (some start) (some stop) with
          | .ok report =>
              if report.brokenRows = 0 then
                auditHealthItem .pass
                  ("verified ".toList ++ natText report.checkedRows ++ " recent rows".toList)
              else
                auditHealthItem .fail ("broken_rows=".toList ++ natText report.brokenRows ++
                  " in recent verify".toList)
          | .error err => auditHealthItem .fail ("verify failed: ".toList ++ err)

section Health

variable {crypto : AuditCrypto} {t : AuditTable}

/-- An honest log verifies on every window that starts at a row or just past the last one. -/
theorem AuditTable.Honest.verifies (h : t.Honest crypto) {s e : Option ℤ}
    (hs : ∀ k, s = some k → k ≤ t.rows.length + 1) : t.Verifies crypto s e := by
  refine h.intact.verifies (fun row hrow => h.numbered.one_le hrow) ?_
  intro k hk hlt
  have := hs k hk
  exact h.numbered.exists_row (by omega) (by omega)

/-- The health check of an honest log passes. -/
theorem AuditTable.Honest.health (h : t.Honest crypto) (queryMaxRows : ℕ) {maxRows : UInt64}
    (hmax : maxRows.toNat ≤ 100000) :
    (checkAuditHealth crypto (.readable t) queryMaxRows maxRows).status = .pass := by
  unfold checkAuditHealth
  rcases Nat.eq_zero_or_pos queryMaxRows with rfl | hpos
  · -- with a cap of zero rows the log looks empty
    have hnil : t.tail 0 { limit := some 1 } = [] := by
      simp [AuditTable.tail]
    simp only [hnil]
    rfl
  · simp only [tail_one t hpos]
    cases hlast : t.rows.getLast? with
    | none => rfl
    | some last =>
      have hid : last.eventId = t.rows.length := by
        have hnext := h.numbered.nextId_eq
        simp only [AuditTable.nextId, hlast, Option.map_some, Option.getD_some] at hnext
        omega
      have hstart : clampI64 (clampI64 (last.eventId - asI64 maxRows) + 1) ≤
          t.rows.length + 1 := by
        rw [asI64_of_lt (by omega)]
        unfold clampI64
        omega
      obtain ⟨report, hverify, hbroken⟩ := @AuditTable.Honest.verifies crypto t h
        (some (clampI64 (clampI64 (last.eventId - asI64 maxRows) + 1))) (some last.eventId) (by
          intro k hk
          injection hk with hk
          omega)
      simp only [Option.toList_some, hverify, hbroken, if_true]
      rfl

/-- **Honest logs verify.**  After any history of one writer that starts from an empty database and
succeeds, the identifiers are `1, …, n`, every window that starts at most one past them verifies, and
the health check passes for every number of rows that a configuration admits. -/
theorem honest_log_verifies {store : AuditStore} {calls : List RecordCall} {db : AuditDb}
    (h : store.recordAll crypto .empty calls = .ok db) :
    db.events.rows.map AuditRow.eventId =
        (List.range calls.length).map (fun k : ℕ => (k : ℤ) + 1) ∧
      (∀ s e : Option ℤ, (∀ k, s = some k → k ≤ calls.length + 1) →
        ∃ report, db.events.verify crypto s e = .ok report ∧ report.brokenRows = 0) ∧
      ∀ (queryMaxRows : ℕ) (maxRows : UInt64), 1 ≤ maxRows.toNat → maxRows.toNat ≤ 100000 →
        (checkAuditHealth crypto (.readable db.events) queryMaxRows maxRows).status = .pass := by
  obtain ⟨hhonest, hlen⟩ := honest_of_recordAll honest_empty h
  have hcount : db.events.rows.length = calls.length := hlen.trans (Nat.zero_add _)
  refine ⟨?_, ?_, fun queryMaxRows maxRows _ hmax => hhonest.health queryMaxRows hmax⟩
  · rw [← hcount]
    exact hhonest.numbered
  · intro s e hs
    refine hhonest.verifies ?_
    rw [hcount]
    exact hs

/-- A store with a key for the pseudonyms. -/
def keyStore : AuditStore := ⟨.readWrite, some [107, 101, 121], 100, 100⟩

/-- Two calls, the second one about a message. -/
def twoCalls : List RecordCall :=
  [⟨{ eventType := .processStart }, .ok "2024-01-01T00:00:00Z".toList, .ok []⟩,
    ⟨{ totalCount := 2, channelId := some 3 }, .ok "2024-01-01T00:00:01Z".toList, .ok []⟩]

/-- The events they leave behind. -/
def twoEvents : AuditTable :=
  let first := AuditTable.empty.insert (keyStore.columns .sha2 AuditTable.genesis
    { eventType := .processStart } "2024-01-01T00:00:00Z".toList)
  first.insert (keyStore.columns .sha2 first.lastRowHash
    { totalCount := 2, channelId := some 3 } "2024-01-01T00:00:01Z".toList)

theorem honest_log_verifies_twoEvents :
    twoEvents.rows.map AuditRow.eventId = [1, 2] ∧
      (∀ s e : Option ℤ, (∀ k, s = some k → k ≤ 3) →
        ∃ report, twoEvents.verify .sha2 s e = .ok report ∧ report.brokenRows = 0) ∧
      ∀ (queryMaxRows : ℕ) (maxRows : UInt64), 1 ≤ maxRows.toNat → maxRows.toNat ≤ 100000 →
        (checkAuditHealth .sha2 (.readable twoEvents) queryMaxRows maxRows).status = .pass :=
  @honest_log_verifies .sha2 keyStore twoCalls ⟨twoEvents, []⟩ rfl

end Health

end OoBot
