import OoBot.Audit.Verify

/-!
# Honest histories

A history is a list of calls of `record_event` by one writer, starting from an empty database.  After
any history that succeeds, the rows are a hash chain and their identifiers are `1, …, n`
(`honest_of_recordAll`).
-/

namespace OoBot

/-- A call of `record_event`: the event, and the two readings of the clock. -/
structure RecordCall where
  input : AuditEventInput
  clock : Except Text Text
  manifestClock : Except Text Text

/-- The calls of a history, one after the other. -/
def AuditStore.recordAll (crypto : AuditCrypto) (self : AuditStore) :
    AuditDb → List RecordCall → Except Text AuditDb
  | db, [] => .ok db
  | db, call :: calls => do
      let (_, db) ← self.recordEvent crypto db call.input call.clock call.manifestClock
      self.recordAll crypto db calls

/-- Identifiers without gaps, from `1` on. -/
def AuditTable.Numbered (t : AuditTable) : Prop :=
  t.rows.map AuditRow.eventId = (List.range t.rows.length).map fun k : ℕ => (k : ℤ) + 1

/-- What a history leaves behind. -/
structure AuditTable.Honest (crypto : AuditCrypto) (t : AuditTable) : Prop where
  intact : t.Intact crypto
  numbered : t.Numbered

section Honest

variable {crypto : AuditCrypto} {store : AuditStore} {t : AuditTable}

theorem honest_empty : AuditTable.empty.Honest crypto := ⟨intact_empty, rfl⟩

theorem length_insert (columns : AuditColumns) :
    (t.insert columns).rows.length = t.rows.length + 1 := by
  simp [AuditTable.insert]

/-- The next identifier is the number of rows plus one. -/
theorem AuditTable.Numbered.nextId_eq (h : t.Numbered) : t.nextId = t.rows.length + 1 := by
  have hlast : (t.rows.map AuditRow.eventId).getLast? =
      ((List.range t.rows.length).map fun k : ℕ => (k : ℤ) + 1).getLast? := by rw [h]
  rw [List.getLast?_map, List.getLast?_map, List.getLast?_range] at hlast
  unfold nextId
  cases hl : t.rows.getLast? with
  | none =>
    have hnil : t.rows = [] := List.getLast?_eq_none_iff.1 hl
    simp [hnil]
  | some row =>
    have hpos : t.rows.length ≠ 0 := by
      intro hzero
      rw [List.length_eq_zero_iff.1 hzero] at hl
      cases hl
    rw [hl, if_neg hpos] at hlast
    simp only [Option.map_some, Option.some.injEq] at hlast
    simp only [Option.map_some, Option.getD_some]
    omega

theorem AuditTable.Numbered.insert (h : t.Numbered) (columns : AuditColumns) :
    (t.insert columns).Numbered := by
  have hid := h.nextId_eq
  unfold Numbered at h ⊢
  rw [length_insert, List.range_succ, List.map_append, ← h]
  simp [AuditTable.insert, hid]

theorem AuditTable.Numbered.one_le (h : t.Numbered) {row : AuditRow} (hrow : row ∈ t.rows) :
    1 ≤ row.eventId := by
  have hmem : row.eventId ∈ t.rows.map AuditRow.eventId := List.mem_map.2 ⟨row, hrow, rfl⟩
  rw [h] at hmem
  obtain ⟨k, -, hk⟩ := List.mem_map.1 hmem
  omega

/-- Every identifier up to the number of rows is taken. -/
theorem AuditTable.Numbered.exists_row (h : t.Numbered) {id : ℤ} (hpos : 1 ≤ id)
    (hle : id ≤ t.rows.length) : ∃ row ∈ t.rows, row.eventId = id := by
  have hmem : id ∈ (List.range t.rows.length).map fun k : ℕ => (k : ℤ) + 1 :=
    List.mem_map.2 ⟨(id - 1).toNat, List.mem_range.2 (by omega), by omega⟩
  rw [← h] at hmem
  obtain ⟨row, hrow, hid⟩ := List.mem_map.1 hmem
  exact ⟨row, hrow, hid⟩

theorem maybeCreateManifest_events {db db' : AuditDb} {lastEventId : ℤ}
    {clock : Except Text Text}
    (h : AuditStore.maybeCreateManifest crypto db lastEventId clock = .ok db') :
    db'.events = db.events := by
  unfold AuditStore.maybeCreateManifest at h
  split_ifs at h
  · injection h with h
    rw [h]
  · cases clock with
    | error err => cases h
    | ok tsUtc =>
      injection h with h
      rw [← h]

/-- Only a store that is opened for writing is written to. -/
theorem ensureWritable_eq_ok_iff : store.ensureWritable = .ok () ↔ store.mode = .readWrite := by
  unfold AuditStore.ensureWritable
  cases store.mode with
  | readOnly =>
    constructor
    · intro h
      cases h
    · intro h
      cases h
  | readWrite =>
    constructor
    · intro _
      rfl
    · intro _
      rfl

/-- A call that succeeds appends a row to the events, and returns its identifier. -/
theorem recordEvent_ok {db db' : AuditDb} {input : AuditEventInput}
    {clock manifestClock : Except Text Text} {id : ℤ}
    (h : store.recordEvent crypto db input clock manifestClock = .ok (id, db')) :
    store.mode = .readWrite ∧ ∃ tsUtc, clock = .ok tsUtc ∧ id = db.events.nextId ∧
      db'.events = db.events.insert
        (store.columns crypto db.events.lastRowHash input tsUtc) := by
  unfold AuditStore.recordEvent at h
  have hwritable : store.ensureWritable = .ok () := by
    cases hw : store.ensureWritable with
    | ok _ => rfl
    | error err =>
      rw [hw] at h
      cases h
  refine ⟨ensureWritable_eq_ok_iff.1 hwritable, ?_⟩
  rw [hwritable] at h
  cases clock with
  | error err => cases h
  | ok tsUtc =>
    refine ⟨tsUtc, rfl, ?_⟩
    simp only [bind, Except.bind] at h
    -- the row is there before the manifest is looked at, which may still fail
    cases hm : AuditStore.maybeCreateManifest crypto
        { db with events :=
            db.events.insert (store.columns crypto db.events.lastRowHash input tsUtc) }
        db.events.nextId manifestClock with
    | error err =>
      rw [hm] at h
      cases h
    | ok db'' =>
      rw [hm] at h
      injection h with h
      injection h with hid hdb
      subst hid hdb
      exact ⟨rfl, maybeCreateManifest_events hm⟩

/-- A call keeps the events honest. -/
theorem honest_step {db db' : AuditDb} {input : AuditEventInput}
    {clock manifestClock : Except Text Text} {id : ℤ} (hdb : db.events.Honest crypto)
    (h : store.recordEvent crypto db input clock manifestClock = .ok (id, db')) :
    db'.events.Honest crypto ∧ db'.events.rows.length = db.events.rows.length + 1 := by
  obtain ⟨-, tsUtc, -, -, hevents⟩ := recordEvent_ok h
  rw [hevents]
  refine ⟨⟨intact_insert_iff.2 ⟨hdb.intact, rfl, ?_⟩, hdb.numbered.insert _⟩, length_insert _⟩
  exact AuditStore.columns_rowHash _ _ _ _ _

/-- **A history leaves a hash chain without gaps.** -/
theorem honest_of_recordAll {db db' : AuditDb} {calls : List RecordCall}
    (hdb : db.events.Honest crypto) (h : store.recordAll crypto db calls = .ok db') :
    db'.events.Honest crypto ∧
      db'.events.rows.length = db.events.rows.length + calls.length := by
  induction calls generalizing db with
  | nil =>
    injection h with h
    subst h
    exact ⟨hdb, rfl⟩
  | cons call calls ih =>
    rw [AuditStore.recordAll] at h
    cases hstep : store.recordEvent crypto db call.input call.clock call.manifestClock with
    | error err =>
      rw [hstep] at h
      cases h
    | ok r =>
      obtain ⟨id, db₁⟩ := r
      rw [hstep] at h
      obtain ⟨hdb₁, hlen⟩ := honest_step hdb hstep
      obtain ⟨hfinal, hlen'⟩ := ih hdb₁ h
      exact ⟨hfinal, by rw [hlen', hlen, List.length_cons]; omega⟩

end Honest

end OoBot
