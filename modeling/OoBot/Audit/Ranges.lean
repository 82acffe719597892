import OoBot.Audit.Verify

/-!
# Verifying range by range

`verify` on a range is `verify` on its two parts, for any table: with a row at the cut the second part
starts from the hash that the first one ends with, whatever the rows say of each other.
-/

namespace OoBot

/-- Two reports, one after the other. -/
def VerifyReport.append (r r' : VerifyReport) : VerifyReport :=
  ⟨r.checkedRows + r'.checkedRows, r.brokenRows + r'.brokenRows, r.details ++ r'.details⟩

theorem VerifyReport.append_assoc (r r' r'' : VerifyReport) :
    (r.append r').append r'' = r.append (r'.append r'') := by
  simp [append, Nat.add_assoc]

theorem VerifyReport.empty_append (r : VerifyReport) : VerifyReport.append {} r = r := by
  simp [append]

theorem VerifyReport.append_empty (r : VerifyReport) : r.append {} = r := by
  simp [append]

section Loop

variable {crypto : AuditCrypto}

/-- What the loop notes of one row. -/
def rowReport (crypto : AuditCrypto) (expectedPrev : Text) (row : AuditRow) : VerifyReport :=
  let prevLines :=
    if row.columns.prevHash ≠ expectedPrev then
      ["event_id=".toList ++ intText row.eventId ++ " prev_hash mismatch".toList]
    else []
  let hashLines :=
    if computeRowHash crypto row.columns.prevHash row.columns.normalizedPayloadJson ≠
        row.columns.rowHash then
      ["event_id=".toList ++ intText row.eventId ++ " row_hash mismatch".toList]
    else []
  ⟨1, prevLines.length + hashLines.length, prevLines ++ hashLines⟩

/-- One round of the loop adds its note to the report. -/
theorem verifyLoop_cons (expectedPrev : Text) (report : VerifyReport) (row : AuditRow)
    (rows : List AuditRow) :
    verifyLoop crypto expectedPrev report (row :: rows) =
      verifyLoop crypto row.columns.rowHash (report.append (rowReport crypto expectedPrev row))
        rows := by
  rw [verifyLoop]
  unfold rowReport VerifyReport.append
  generalize "event_id=".toList ++ intText row.eventId ++ " prev_hash mismatch".toList = prevLine
  generalize "event_id=".toList ++ intText row.eventId ++ " row_hash mismatch".toList = hashLine
  generalize computeRowHash crypto row.columns.prevHash row.columns.normalizedPayloadJson = recomputed
  by_cases hprev : row.columns.prevHash = expectedPrev <;>
    by_cases hhash : recomputed = row.columns.rowHash <;>
    simp only [ne_eq, hprev, hhash, not_true_eq_false, not_false_eq_true, if_true, if_false,
      List.length_nil, List.length_singleton, Nat.add_zero, Nat.zero_add, Nat.add_assoc,
      List.append_nil, List.nil_append, List.append_assoc]

/-- The report so far is carried along. -/
theorem verifyLoop_report (expectedPrev : Text) (report : VerifyReport) (rows : List AuditRow) :
    verifyLoop crypto expectedPrev report rows =
      report.append (verifyLoop crypto expectedPrev {} rows) := by
  induction rows generalizing expectedPrev report with
  | nil => rw [verifyLoop, verifyLoop, VerifyReport.append_empty]
  | cons row rows ih =>
    rw [verifyLoop_cons, ih, verifyLoop_cons, VerifyReport.empty_append, VerifyReport.append_assoc,
      ih _ (rowReport crypto expectedPrev row)]

/-- The loop over two stretches of rows: the second one starts from the last hash of the first. -/
theorem verifyLoop_append (expectedPrev : Text) (rows rows' : List AuditRow) :
    verifyLoop crypto expectedPrev {} (rows ++ rows') =
      (verifyLoop crypto expectedPrev {} rows).append
        (verifyLoop crypto (HashChain.head expectedPrev (rows.map AuditRow.entry)) {} rows') := by
  induction rows generalizing expectedPrev with
  | nil =>
    rw [List.nil_append, verifyLoop, VerifyReport.empty_append]
    rfl
  | cons row rows ih =>
    rw [List.cons_append, verifyLoop_cons, VerifyReport.empty_append, verifyLoop_report, ih,
      verifyLoop_cons, VerifyReport.empty_append,
      verifyLoop_report _ (rowReport crypto expectedPrev row) rows, VerifyReport.append_assoc]
    rfl

end Loop

section Ranges

variable {crypto : AuditCrypto} {t : AuditTable} {a k : ℤ} {stop : Option ℤ}

theorem verify_eq_ok {start stop : Option ℤ} {report : VerifyReport}
    (h : t.verify crypto start stop = .ok report) :
    ∃ expectedPrev, t.initialHash start = .ok expectedPrev ∧
      report = verifyLoop crypto expectedPrev {} (t.window start stop) := by
  unfold AuditTable.verify at h
  cases hinit : t.initialHash start with
  | error err =>
    rw [hinit] at h
    cases h
  | ok expectedPrev =>
    rw [hinit] at h
    injection h with h
    exact ⟨expectedPrev, rfl, h.symm⟩

theorem verify_of_initialHash {start : Option ℤ} {expectedPrev : Text}
    (h : t.initialHash start = .ok expectedPrev) (stop : Option ℤ) :
    t.verify crypto start stop = .ok (verifyLoop crypto expectedPrev {} (t.window start stop)) := by
  unfold AuditTable.verify
  rw [h]
  rfl

/-- A window falls apart at a row. -/
theorem window_split (hak : a ≤ k) (hstop : ∀ e ∈ stop, k ≤ e) :
    t.window (some a) stop = t.window (some a) (some k) ++ t.window (some (k + 1)) stop := by
  have hsorted : (t.window (some a) stop).Pairwise fun row row' => row.eventId < row'.eventId :=
    t.sorted.sublist List.filter_sublist
  rw [← KeySorted.filter_le_append_filter_lt hsorted k]
  unfold AuditTable.window
  rw [List.filter_filter, List.filter_filter]
  congr 1
  · refine List.filter_congr fun row _ => ?_
    rw [Bool.eq_iff_iff]
    cases stop with
    | none => simp [and_comm]
    | some e =>
      have := hstop e rfl
      simp
      omega
  · refine List.filter_congr fun row _ => ?_
    rw [Bool.eq_iff_iff]
    cases stop with
    | none =>
      simp
      omega
    | some e =>
      simp
      omega

/-- The first part ends with the hash of the row at the cut, from which the second part starts. -/
theorem initialHash_succ (ha : 1 ≤ a) (hak : a ≤ k) {row : AuditRow} (hrow : row ∈ t.rows)
    (hid : row.eventId = k) (start : Text) :
    t.initialHash (some (k + 1)) = .ok (HashChain.head start
      ((t.window (some a) (some k)).map AuditRow.entry)) := by
  have hmem : row ∈ t.window (some a) (some k) := by
    refine List.mem_filter.2 ⟨hrow, ?_⟩
    simp [hid, hak]
  have hsorted : (t.window (some a) (some k)).Pairwise fun r r' => r.eventId < r'.eventId :=
    t.sorted.sublist List.filter_sublist
  have hlast : (t.window (some a) (some k)).getLast? = some row := by
    refine KeySorted.getLast?_eq_some hsorted hmem fun row' hrow' => ?_
    obtain ⟨-, hin⟩ := List.mem_filter.1 hrow'
    have hle : a ≤ row'.eventId ∧ row'.eventId ≤ k := by simpa using hin
    rw [hid]
    exact hle.2
  have hfind : t.rows.find? (fun r => r.eventId = k + 1 - 1) = some row := by
    rw [Int.add_sub_cancel, ← hid]
    exact KeySorted.find?_eq_some t.sorted hrow
  have hhead := @HashChain.head_eq_of_getLast? _ _ start
    ((t.window (some a) (some k)).map AuditRow.entry) row.entry (by rw [List.getLast?_map, hlast]; rfl)
  rw [AuditTable.initialHash, if_neg (by omega), hfind, hhead]
  rfl

/-- **Range verification composes.**  Whatever the rows of a table say, a range that can be verified is
verified as its part up to a row and the part behind it: the counts add up, and the details follow each
other. -/
theorem verify_ranges (ha : 1 ≤ a) (hak : a ≤ k) (hk : ∃ row ∈ t.rows, row.eventId = k)
    (hstop : ∀ e ∈ stop, k ≤ e) {report : VerifyReport}
    (h : t.verify crypto (some a) stop = .ok report) :
    ∃ first second, t.verify crypto (some a) (some k) = .ok first ∧
      t.verify crypto (some (k + 1)) stop = .ok second ∧
      report.checkedRows = first.checkedRows + second.checkedRows ∧
      report.brokenRows = first.brokenRows + second.brokenRows ∧
      report.details = first.details ++ second.details := by
  obtain ⟨row, hrow, hid⟩ := hk
  obtain ⟨expectedPrev, hinit, rfl⟩ := verify_eq_ok h
  refine ⟨_, _, verify_of_initialHash hinit _,
    verify_of_initialHash (initialHash_succ ha hak hrow hid expectedPrev) _, ?_⟩
  rw [window_split hak hstop, verifyLoop_append]
  exact ⟨rfl, rfl, rfl⟩

end Ranges

/-- A table with a gap, whose second row does not name the hash of the first. -/
def gappyTable : AuditTable where
  rows :=
    let store : AuditStore := ⟨.readWrite, none, 100, 100⟩
    [⟨1, store.columns .sha2 AuditTable.genesis {} "2024-01-01T00:00:00Z".toList⟩,
      ⟨3, store.columns .sha2 AuditTable.genesis {} "2024-01-01T00:00:01Z".toList⟩]
  sorted := by simp

/-- The cut lies at its first row. -/
theorem verify_gappyTable :
    ∃ report first second, gappyTable.verify .sha2 (some 1) (some 3) = .ok report ∧
      gappyTable.verify .sha2 (some 1) (some 1) = .ok first ∧
      gappyTable.verify .sha2 (some (1 + 1)) (some 3) = .ok second ∧
      report.checkedRows = first.checkedRows + second.checkedRows ∧
      report.brokenRows = first.brokenRows + second.brokenRows ∧
      report.details = first.details ++ second.details := by
  have hrow : ∃ row ∈ gappyTable.rows, row.eventId = 1 := ⟨_, List.mem_cons_self, rfl⟩
  obtain ⟨first, second, hparts⟩ := @verify_ranges .sha2 gappyTable 1 1 (some 3) (by decide) (by decide)
    hrow (by simp) _ rfl
  exact ⟨_, first, second, rfl, hparts⟩

end OoBot
