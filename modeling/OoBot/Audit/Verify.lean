import OoBot.Audit.Record
import OoBot.Lib.KeySorted

/-!
# `verify` of `src/audit/mod.rs`

`verify` walks through a window of the table and compares each row with the hash before it and with
its own digest.

* On the whole table it finds nothing exactly when the rows are a hash chain from `GENESIS`
  (`verifies_all_iff`); then it finds nothing in any window that starts next to a row
  (`Intact.verifies`).
* The last hash of a table in which it finds nothing commits to the whole table (`head_commits`).
-/

namespace OoBot

/-- `VerifyReport`. -/
structure VerifyReport where
  checkedRows : ℕ := 0
  brokenRows : ℕ := 0
  details : List Text := []

/-- `Display` of an `i64`. -/
def intText (n : ℤ) : Text := if n < 0 then '-' :: natText n.natAbs else natText n.natAbs

/-- The loop of `verify`. -/
def verifyLoop (crypto : AuditCrypto) : Text → VerifyReport → List AuditRow → VerifyReport
  | _, report, [] => report
  | expectedPrev, report, row :: rows =>
      let report := { report with checkedRows := report.checkedRows + 1 }
      let report :=
        if row.columns.prevHash ≠ expectedPrev then
          { report with
            brokenRows := report.brokenRows + 1
            details := report.details ++
              ["event_id=".toList ++ intText row.eventId ++ " prev_hash mismatch".toList] }
        else report
      let recomputed :=
        computeRowHash crypto row.columns.prevHash row.columns.normalizedPayloadJson
      let report :=
        if recomputed ≠ row.columns.rowHash then
          { report with
            brokenRows := report.brokenRows + 1
            details := report.details ++
              ["event_id=".toList ++ intText row.eventId ++ " row_hash mismatch".toList] }
        else report
      verifyLoop crypto row.columns.rowHash report rows

namespace AuditTable

/-- The hash with which the first row of a window is compared. -/
def initialHash (t : AuditTable) (startEventId : Option ℤ) : Except Text Text :=
  match startEventId with
  | none => .ok genesis
  | some startId =>
      if startId ≤ 1 then .ok genesis
      else
        match t.rows.find? fun row => row.eventId = startId - 1 with
        | some row => .ok row.columns.rowHash
        | none =>
            .error ("failed to initialize verify chain: missing row_hash for event_id=".toList ++
              intText (startId - 1))

/-- The rows of a window. -/
def window (t : AuditTable) (startEventId endEventId : Option ℤ) : List AuditRow :=
  t.rows.filter fun row =>
    startEventId.all (fun s => s ≤ row.eventId) && endEventId.all fun e => row.eventId ≤ e

/-- `verify`. -/
def verify (crypto : AuditCrypto) (t : AuditTable) (startEventId endEventId : Option ℤ) :
    Except Text VerifyReport := do
  let expectedPrev ← t.initialHash startEventId
  pure (verifyLoop crypto expectedPrev {} (t.window startEventId endEventId))

/-- `verify` reports no broken row. -/
def Verifies (crypto : AuditCrypto) (t : AuditTable) (startEventId endEventId : Option ℤ) : Prop :=
  ∃ report, t.verify crypto startEventId endEventId = .ok report ∧ report.brokenRows = 0

/-- The rows are a hash chain from `GENESIS`. -/
def Intact (crypto : AuditCrypto) (t : AuditTable) : Prop :=
  HashChain.Linked (computeRowHash crypto) genesis t.entries

end AuditTable

/-! ### What `verify` finds -/

section Verify

variable {crypto : AuditCrypto} {t : AuditTable}

/-- The loop counts the defects of the chain. -/
theorem verifyLoop_brokenRows (expectedPrev : Text) (report : VerifyReport) (rows : List AuditRow) :
    (verifyLoop crypto expectedPrev report rows).brokenRows = report.brokenRows +
      HashChain.defects (computeRowHash crypto) expectedPrev (rows.map AuditRow.entry) := by
  induction rows generalizing expectedPrev report with
  | nil => rfl
  | cons row rows ih =>
    rw [verifyLoop, ih, List.map_cons, HashChain.defects]
    simp only [AuditRow.entry]
    split_ifs <;> simp_all <;> omega

/-- `verify` answers unless the row before the window is missing; then it counts the defects of the
window from the hash before it. -/
theorem verifies_iff {s e : Option ℤ} :
    t.Verifies crypto s e ↔ ∃ start, t.initialHash s = .ok start ∧
      HashChain.Linked (computeRowHash crypto) start ((t.window s e).map AuditRow.entry) := by
  unfold AuditTable.Verifies AuditTable.verify
  cases h : t.initialHash s with
  | error msg =>
    constructor
    · rintro ⟨report, hr, -⟩
      cases hr
    · rintro ⟨start, hs, -⟩
      cases hs
  | ok start =>
    constructor
    · rintro ⟨report, hr, hbroken⟩
      injection hr with hr
      rw [← hr, verifyLoop_brokenRows, Nat.zero_add, HashChain.defects_eq_zero_iff] at hbroken
      exact ⟨start, rfl, hbroken⟩
    · rintro ⟨start', hs, hlinked⟩
      injection hs with hs
      refine ⟨_, rfl, ?_⟩
      rw [verifyLoop_brokenRows, Nat.zero_add, HashChain.defects_eq_zero_iff, hs]
      exact hlinked

theorem window_none (t : AuditTable) : t.window none none = t.rows := by
  unfold AuditTable.window
  exact List.filter_eq_self.2 fun row _ => rfl

/-- On the whole table `verify` finds nothing exactly when the rows are a hash chain. -/
theorem verifies_all_iff : t.Verifies crypto none none ↔ t.Intact crypto := by
  rw [verifies_iff, window_none]
  constructor
  · rintro ⟨start, hs, hlinked⟩
    injection hs with hs
    subst hs
    exact hlinked
  · exact fun h => ⟨_, rfl, h⟩

theorem entries_insert (t : AuditTable) (columns : AuditColumns) :
    (t.insert columns).entries = t.entries ++
      [⟨columns.prevHash, columns.normalizedPayloadJson, columns.rowHash⟩] := by
  simp [AuditTable.entries, AuditTable.insert, AuditRow.entry]

theorem intact_empty : AuditTable.empty.Intact crypto := trivial

/-- A row continues a hash chain when it names the last hash and carries its own digest. -/
theorem intact_insert_iff {columns : AuditColumns} :
    (t.insert columns).Intact crypto ↔ t.Intact crypto ∧ columns.prevHash = t.lastRowHash ∧
      computeRowHash crypto columns.prevHash columns.normalizedPayloadJson = columns.rowHash := by
  unfold AuditTable.Intact
  rw [entries_insert, HashChain.linked_append, AuditTable.lastRowHash_eq_head]
  simp only [HashChain.Linked, and_true]

/-! ### Windows -/

/-- A window is what is left between the rows before it and the rows after it. -/
theorem window_eq (t : AuditTable) (s e : Option ℤ) :
    ∃ before after, before ++ t.window s e ++ after = t.rows ∧
      ∀ row, row ∈ before ↔ row ∈ t.rows ∧ ∃ k, s = some k ∧ row.eventId < k := by
  have hbefore : ∃ before rest, before ++ rest = t.rows ∧
      rest = t.rows.filter (fun row => s.all fun k => k ≤ row.eventId) ∧
      ∀ row, row ∈ before ↔ row ∈ t.rows ∧ ∃ k, s = some k ∧ row.eventId < k := by
    cases s with
    | none => exact ⟨[], t.rows, rfl, (List.filter_eq_self.2 fun row _ => rfl).symm, by simp⟩
    | some k =>
      exact ⟨_, _, KeySorted.filter_lt_append_filter_le t.sorted k, rfl, by simp⟩
  obtain ⟨before, rest, hrows, hrest, hmem⟩ := hbefore
  have hwindow : t.window s e = rest.filter fun row => e.all fun k => row.eventId ≤ k := by
    rw [hrest, List.filter_filter]
    exact List.filter_congr fun row _ => Bool.and_comm _ _
  have hsorted : rest.Pairwise fun a b => a.eventId < b.eventId := by
    have hall := t.sorted
    rw [← hrows] at hall
    exact (List.pairwise_append.1 hall).2.1
  have hafter : ∃ after, t.window s e ++ after = rest := by
    rw [hwindow]
    cases e with
    | none => exact ⟨[], by simp⟩
    | some k => exact ⟨_, KeySorted.filter_le_append_filter_lt hsorted k⟩
  obtain ⟨after, hafter⟩ := hafter
  exact ⟨before, after, by rw [List.append_assoc, hafter, hrows], hmem⟩

/-- The hash before a window is the last one of the rows before it. -/
theorem initialHash_eq_head (hpos : ∀ row ∈ t.rows, 1 ≤ row.eventId) {s : Option ℤ}
    {before rest : List AuditRow} (hrows : before ++ rest = t.rows)
    (hmem : ∀ row, row ∈ before ↔ row ∈ t.rows ∧ ∃ k, s = some k ∧ row.eventId < k)
    (hs : ∀ k, s = some k → 1 < k → ∃ row ∈ t.rows, row.eventId = k - 1) :
    t.initialHash s =
      .ok (HashChain.head AuditTable.genesis (before.map AuditRow.entry)) := by
  -- identifiers start at 1, so no row lies before a window from 1 on
  have hnone : (∀ k, s = some k → k ≤ 1) → before = [] := by
    intro hle
    refine List.eq_nil_iff_forall_not_mem.2 fun row hrow => ?_
    obtain ⟨hrow', k, hk, hlt⟩ := (hmem row).1 hrow
    have := hpos row hrow'
    have := hle k hk
    omega
  cases s with
  | none => rw [hnone (by simp)]; rfl
  | some k =>
    by_cases hk : k ≤ 1
    · have hnil := hnone fun k' hk' => by
        injection hk' with hk'
        omega
      rw [AuditTable.initialHash, if_pos hk, hnil]
      rfl
    · obtain ⟨row, hrow, hid⟩ := hs k rfl (by omega)
      have hfind : t.rows.find? (fun r => r.eventId = k - 1) = some row := by
        rw [← hid]
        exact KeySorted.find?_eq_some t.sorted hrow
      have hlast : before.getLast? = some row := by
        have hsorted : before.Pairwise fun a b => a.eventId < b.eventId := by
          have hall := t.sorted
          rw [← hrows] at hall
          exact (List.pairwise_append.1 hall).1
        refine KeySorted.getLast?_eq_some hsorted ((hmem row).2 ⟨hrow, k, rfl, by omega⟩) ?_
        intro row' hrow'
        obtain ⟨-, k', hk', hlt⟩ := (hmem row').1 hrow'
        injection hk' with hk'
        omega
      have hhead : HashChain.head AuditTable.genesis (before.map AuditRow.entry) =
          row.columns.rowHash :=
        HashChain.head_eq_of_getLast? (e := row.entry) (by rw [List.getLast?_map, hlast]; rfl)
      rw [AuditTable.initialHash, if_neg hk, hfind, hhead]

/-- A window of a hash chain is one from the hash before it. -/
theorem AuditTable.Intact.verifies (h : t.Intact crypto) (hpos : ∀ row ∈ t.rows, 1 ≤ row.eventId)
    {s e : Option ℤ} (hs : ∀ k, s = some k → 1 < k → ∃ row ∈ t.rows, row.eventId = k - 1) :
    t.Verifies crypto s e := by
  obtain ⟨before, after, hrows, hmem⟩ := window_eq t s e
  have hlinked : HashChain.Linked (computeRowHash crypto)
      (HashChain.head AuditTable.genesis (before.map AuditRow.entry))
      ((t.window s e).map AuditRow.entry) := by
    have hall : HashChain.Linked (computeRowHash crypto) AuditTable.genesis
        (before.map AuditRow.entry ++ (t.window s e).map AuditRow.entry ++
          after.map AuditRow.entry) := by
      rw [← List.map_append, ← List.map_append, hrows]
      exact h
    exact ((HashChain.linked_append _ _ _ _).1 ((HashChain.linked_append _ _ _ _).1 hall).1).2
  have hrows' : before ++ (t.window s e ++ after) = t.rows := by
    rw [← List.append_assoc, hrows]
  exact verifies_iff.2 ⟨_, initialHash_eq_head hpos hrows' hmem hs, hlinked⟩

end Verify

/-! ### The last hash -/

/-- The strings that are hashed for the rows of a table. -/
def AuditTable.hashedBytes (t : AuditTable) : List (List UInt8) :=
  t.rows.map fun row => utf8 row.columns.prevHash ++ utf8 row.columns.normalizedPayloadJson

/-- The form of a digest: 64 lowercase hexadecimal digits. -/
def IsHexDigest (s : Text) : Prop := s.length = 64 ∧ ∀ c ∈ s, Sha256.IsHexDigit c

instance (s : Text) : Decidable (IsHexDigest s) :=
  @instDecidableAnd _ _ (instDecidableEqNat s.length 64) (List.decidableBAll Sha256.IsHexDigit s)

/-- On these strings the digest has its form, and no collision. -/
structure GoodDigest (crypto : AuditCrypto) (strings : List (List UInt8)) : Prop where
  hex : ∀ b ∈ strings, IsHexDigest (crypto.sha256Hex b)
  collisionFree : ∀ b ∈ strings, ∀ b' ∈ strings,
    crypto.sha256Hex b = crypto.sha256Hex b' → b = b'

theorem GoodDigest.mono {crypto : AuditCrypto} {strings strings' : List (List UInt8)}
    (h : GoodDigest crypto strings) (hsub : strings' ⊆ strings) : GoodDigest crypto strings' where
  hex b hb := h.hex b (hsub hb)
  collisionFree b hb b' hb' := h.collisionFree b (hsub hb) b' (hsub hb')

/-- `GENESIS` is no digest, and no string is hashed as one that starts with `GENESIS` and as one that
starts with a digest. -/
theorem not_isHexDigest_genesis {s rest rest' : Text} (h : AuditTable.genesis ++ rest = s ++ rest') :
    ¬ IsHexDigest s := by
  rintro ⟨hlen, hhex⟩
  cases s with
  | nil => cases hlen
  | cons c s =>
    have hgenesis : AuditTable.genesis = 'G' :: "ENESIS".toList := by decide
    rw [hgenesis] at h
    injection h with hc
    have hdigit := hhex c List.mem_cons_self
    rw [← hc] at hdigit
    revert hdigit
    decide

/-- A hashed string falls apart into a hash and a payload in one way. -/
theorem hashed_split {p₁ p₂ m₁ m₂ : Text} (h₁ : p₁ = AuditTable.genesis ∨ IsHexDigest p₁)
    (h₂ : p₂ = AuditTable.genesis ∨ IsHexDigest p₂) (h : utf8 p₁ ++ utf8 m₁ = utf8 p₂ ++ utf8 m₂) :
    p₁ = p₂ ∧ m₁ = m₂ := by
  rw [← utf8_append, ← utf8_append] at h
  have heq := utf8_injective h
  rcases h₁ with rfl | hex₁
  · rcases h₂ with rfl | hex₂
    · exact ⟨rfl, List.append_cancel_left heq⟩
    · exact absurd hex₂ (not_isHexDigest_genesis heq)
  · rcases h₂ with rfl | hex₂
    · exact absurd hex₁ (not_isHexDigest_genesis heq.symm)
    · exact List.append_inj heq (hex₁.1.trans hex₂.1.symm)

section Commitment

variable {crypto : AuditCrypto} {t t₁ t₂ : AuditTable}

theorem mem_hashedBytes {e : HashChain.Entry Text Text} (h : e ∈ t.entries) :
    utf8 e.prev ++ utf8 e.payload ∈ t.hashedBytes := by
  obtain ⟨row, hrow, rfl⟩ := List.mem_map.1 h
  exact List.mem_map.2 ⟨row, hrow, rfl⟩

/-- The hashes that the rows of a hash chain name. -/
theorem AuditTable.Intact.prev_form (h : t.Intact crypto)
    (hhex : ∀ b ∈ t.hashedBytes, IsHexDigest (crypto.sha256Hex b)) {e : HashChain.Entry Text Text}
    (he : e ∈ t.entries) : e.prev = genesis ∨ IsHexDigest e.prev := by
  rcases HashChain.Linked.prev_eq h he with hprev | ⟨e', he', hprev⟩
  · exact Or.inl hprev
  · right
    rw [hprev]
    exact hhex _ (mem_hashedBytes he')

/-- Two hash chains with the same last hash have the same entries. -/
theorem AuditTable.Intact.entries_eq (h₁ : t₁.Intact crypto) (h₂ : t₂.Intact crypto)
    (hgood : GoodDigest crypto (t₁.hashedBytes ++ t₂.hashedBytes))
    (hhead : t₁.lastRowHash = t₂.lastRowHash) : t₁.entries = t₂.entries := by
  have hhex₁ := (hgood.mono (List.subset_append_left _ _)).hex
  have hhex₂ := (hgood.mono (List.subset_append_right _ _)).hex
  have hnot : ∀ b, IsHexDigest (crypto.sha256Hex b) → crypto.sha256Hex b ≠ genesis :=
    fun b hb heq => @not_isHexDigest_genesis _ [] [] (by rw [heq]) hb
  refine HashChain.Linked.eq_of_head_eq h₁ h₂ ?_ ?_ ?_
  · intro e he
    rcases List.mem_append.1 he with he | he
    · exact hnot _ (hhex₁ _ (mem_hashedBytes he))
    · exact hnot _ (hhex₂ _ (mem_hashedBytes he))
  · intro e he e' he' hsame
    have hbytes := hgood.collisionFree _ (List.mem_append_left _ (mem_hashedBytes he)) _
      (List.mem_append_right _ (mem_hashedBytes he')) hsame
    exact hashed_split (h₁.prev_form hhex₁ he) (h₂.prev_form hhex₂ he') hbytes
  · rw [← lastRowHash_eq_head, ← lastRowHash_eq_head, hhead]

/-- **The head hash commits to the history.**  Two tables in which `verify` finds nothing, and whose
last rows carry the same hash, have the same number of rows and the same hashes and payloads. -/
theorem head_commits {r₁ r₂ : AuditRow}
    (hgood : GoodDigest crypto (t₁.hashedBytes ++ t₂.hashedBytes))
    (h₁ : t₁.Verifies crypto none none) (h₂ : t₂.Verifies crypto none none)
    (hr₁ : t₁.rows.getLast? = some r₁) (hr₂ : t₂.rows.getLast? = some r₂)
    (hhash : r₁.columns.rowHash = r₂.columns.rowHash) :
    t₁.rows.length = t₂.rows.length ∧
      t₁.rows.map AuditRow.entry = t₂.rows.map AuditRow.entry := by
  have hhead : t₁.lastRowHash = t₂.lastRowHash := by
    simp only [AuditTable.lastRowHash, hr₁, hr₂, Option.map_some, hhash]
  have heq := (verifies_all_iff.1 h₁).entries_eq (verifies_all_iff.1 h₂) hgood hhead
  exact ⟨by simpa [AuditTable.entries] using congrArg List.length heq, heq⟩

/-- A row for the start of the process. -/
def startColumns : AuditColumns :=
  AuditStore.columns .sha2 ⟨.readWrite, none, 100, 100⟩ AuditTable.genesis
    { eventType := .processStart } "2024-01-01T00:00:00Z".toList

/-- The table with that row. -/
def startTable : AuditTable := AuditTable.empty.insert startColumns

/-- The table with that row and another text in one of its columns. -/
def startTable' : AuditTable := AuditTable.empty.insert { startColumns with mode := "off".toList }

/-- A row for the end of the process, after that one. -/
def stopColumns : AuditColumns :=
  AuditStore.columns .sha2 ⟨.readWrite, none, 100, 100⟩ startColumns.rowHash
    { eventType := .processShutdown } "2024-01-01T00:00:09Z".toList

/-- The table with both rows. -/
def stopTable : AuditTable := startTable.insert stopColumns

/-- The table with both rows and another text in a column of each. -/
def stopTable' : AuditTable := startTable'.insert { stopColumns with mode := "off".toList }

theorem startColumns_rowHash : computeRowHash .sha2 startColumns.prevHash
    startColumns.normalizedPayloadJson = startColumns.rowHash :=
  AuditStore.columns_rowHash _ _ _ _ _

theorem stopColumns_rowHash : computeRowHash .sha2 stopColumns.prevHash
    stopColumns.normalizedPayloadJson = stopColumns.rowHash :=
  AuditStore.columns_rowHash _ _ _ _ _

theorem startTable_intact : startTable.Intact .sha2 :=
  intact_insert_iff.2 ⟨intact_empty, rfl, startColumns_rowHash⟩

theorem startTable'_intact : startTable'.Intact .sha2 :=
  intact_insert_iff.2 ⟨intact_empty, rfl, startColumns_rowHash⟩

theorem stopColumns_prevHash : stopColumns.prevHash = startColumns.rowHash := by
  unfold stopColumns AuditStore.columns
  rfl

theorem stopTable_intact : stopTable.Intact .sha2 :=
  intact_insert_iff.2 ⟨startTable_intact, stopColumns_prevHash, stopColumns_rowHash⟩

theorem stopTable'_intact : stopTable'.Intact .sha2 :=
  intact_insert_iff.2 ⟨startTable'_intact, stopColumns_prevHash, stopColumns_rowHash⟩

/-- The string that is hashed for the first row. -/
def startBytes : List UInt8 := utf8 startColumns.prevHash ++ utf8 startColumns.normalizedPayloadJson

/-- The string that is hashed for the second row. -/
def stopBytes : List UInt8 := utf8 stopColumns.prevHash ++ utf8 stopColumns.normalizedPayloadJson

/-- For two strings with different digests, SHA-256 has no collisions. -/
theorem goodDigest_pair {b₁ b₂ : List UInt8} (hne : Sha256.hexDigest b₁ ≠ Sha256.hexDigest b₂)
    {strings : List (List UInt8)} (h : strings ⊆ [b₁, b₂]) : GoodDigest .sha2 strings := by
  refine ⟨fun b _ => ⟨Sha256.length_hexDigest b, fun c => Sha256.isHexDigit_of_mem_hex⟩, ?_⟩
  intro b hb b' hb' hsame
  have hsame : Sha256.hexDigest b = Sha256.hexDigest b' := hsame
  have hb := h hb
  have hb' := h hb'
  simp only [List.mem_cons, List.not_mem_nil, or_false] at hb hb'
  rcases hb with rfl | rfl <;> rcases hb' with rfl | rfl
  · rfl
  · exact absurd hsame hne
  · exact absurd hsame.symm hne
  · rfl

theorem hexDigest_startBytes_ne : Sha256.hexDigest startBytes ≠ Sha256.hexDigest stopBytes := by
  decide +kernel

/-- The last hash commits to the entries of the two rows, not to their other columns. -/
theorem head_commits_stop : stopTable.rows.length = stopTable'.rows.length ∧
    stopTable.rows.map AuditRow.entry = stopTable'.rows.map AuditRow.entry := by
  have hgood : GoodDigest .sha2 (stopTable.hashedBytes ++ stopTable'.hashedBytes) := by
    refine goodDigest_pair hexDigest_startBytes_ne ?_
    have hstrings : stopTable.hashedBytes ++ stopTable'.hashedBytes =
        [startBytes, stopBytes, startBytes, stopBytes] := rfl
    rw [hstrings]
    simp
  exact @head_commits .sha2 stopTable stopTable' ⟨2, stopColumns⟩
    ⟨2, { stopColumns with mode := "off".toList }⟩ hgood (verifies_all_iff.2 stopTable_intact)
    (verifies_all_iff.2 stopTable'_intact) rfl rfl rfl

end Commitment

end OoBot
