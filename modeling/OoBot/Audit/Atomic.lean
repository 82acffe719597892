import OoBot.Audit.History
import OoBot.Lib.Fallible
import OoBot.Lib.Runs

/-!
# What a failed `record_event` leaves behind

`record_event` issues up to four statements, and each commits on its own.  A statement that fails
changes nothing; the ones before it stay.  So a call that fails leaves the tables alone unless it fails in the
manifest step, with its row inserted (`atomic_iff`); and such a call leaves a complete block without its
manifest (`not_sealed_step`).
-/

namespace OoBot

open Fallible (FailsClean failsClean_ofExcept)

/-- The statements of `record_event` and of `maybe_create_manifest`, in their order. -/
inductive AuditStatement
  | selectLastHash
  | insertEvent
  | selectRowHashes
  | insertManifest
  deriving DecidableEq, Repr

/-- A call by whatever process has the database open, and the statements of it that fail. -/
structure RecordAttempt extends RecordCall where
  store : AuditStore
  fails : AuditStatement → Option Text

namespace RecordAttempt

variable (crypto : AuditCrypto) (call : RecordAttempt)

/-- A statement fails and changes nothing, or takes effect. -/
def statement {α : Type} (s : AuditStatement) (effect : AuditDb → α × AuditDb) :
    EStateM Text AuditDb α := fun db =>
  match call.fails s with
  | some err => .error err db
  | none => .ok (effect db).1 (effect db).2

/-- `maybe_create_manifest`. -/
def maybeCreateManifest (lastEventId : ℤ) : EStateM Text AuditDb Unit := do
  if lastEventId % manifestInterval ≠ 0 then pure ()
  else
    let fromEvent := lastEventId - manifestInterval + 1
    let rowHashes ← call.statement .selectRowHashes fun db =>
      ((db.events.rows.filter fun row => fromEvent ≤ row.eventId ∧ row.eventId ≤ lastEventId).map
        fun row => row.columns.rowHash, db)
    let manifestHash := crypto.sha256Hex (utf8 rowHashes.flatten)
    let tsUtc ← ofExcept call.manifestClock
    call.statement .insertManifest fun db =>
      ((), { db with manifests := db.manifests ++ [⟨tsUtc, fromEvent, lastEventId, manifestHash⟩] })

/-- `record_event`. -/
def recordEvent : EStateM Text AuditDb ℤ := do
  ofExcept call.store.ensureWritable
  let prevHash ← call.statement .selectLastHash fun db => (db.events.lastRowHash, db)
  let tsUtc ← ofExcept call.clock
  let eventId ← call.statement .insertEvent fun db =>
    (db.events.nextId,
      { db with events := db.events.insert (call.store.columns crypto prevHash call.input tsUtc) })
  call.maybeCreateManifest crypto eventId
  pure eventId

/-- The tables after a call, however it ends. -/
def step (db : AuditDb) (call : RecordAttempt) : AuditDb :=
  Fallible.after (call.recordEvent crypto db)

/-- A call that fails leaves the tables as they are. -/
def Atomic (db : AuditDb) : Prop :=
  ∀ err db', call.recordEvent crypto db = .error err db' → db' = db

/-- The call gets as far as its row. -/
def Inserts : Prop :=
  call.store.mode = .readWrite ∧ call.fails .selectLastHash = none ∧
    (∃ tsUtc, call.clock = .ok tsUtc) ∧ call.fails .insertEvent = none

/-- Nothing is in the way of a manifest. -/
def Seals : Prop :=
  call.fails .selectRowHashes = none ∧ (∃ tsUtc, call.manifestClock = .ok tsUtc) ∧
    call.fails .insertManifest = none

/-- The row of the call completes a block, and the manifest of the block fails. -/
def Torn (db : AuditDb) : Prop :=
  call.Inserts ∧ db.events.nextId % manifestInterval = 0 ∧ ¬ call.Seals

section Outcomes

variable {crypto : AuditCrypto} {call : RecordAttempt} {db db' : AuditDb}

theorem statement_of_none {α : Type} {s : AuditStatement} {effect : AuditDb → α × AuditDb}
    (h : call.fails s = none) :
    call.statement s effect db = .ok (effect db).1 (effect db).2 := by
  unfold statement
  rw [h]

theorem failsClean_statement {α : Type} {s : AuditStatement} {effect : AuditDb → α × AuditDb}
    (h : call.fails s ≠ none) : FailsClean (call.statement s effect) db := by
  obtain ⟨err, herr⟩ := Option.ne_none_iff_exists'.1 h
  refine ⟨err, ?_⟩
  unfold statement
  rw [herr]

/-- Only the ends of the blocks have manifests. -/
theorem maybeCreateManifest_of_ne {id : ℤ} (h : id % manifestInterval ≠ 0) :
    call.maybeCreateManifest crypto id db = .ok () db := by
  unfold maybeCreateManifest
  rw [if_pos h]
  rfl

/-- The manifest of the block that ends with a row. -/
def manifest (crypto : AuditCrypto) (t : AuditTable) (tsUtc : Text) (id : ℤ) : AuditManifest :=
  let fromEvent := id - manifestInterval + 1
  let rowHashes :=
    (t.rows.filter fun row => fromEvent ≤ row.eventId ∧ row.eventId ≤ id).map
      fun row => row.columns.rowHash
  ⟨tsUtc, fromEvent, id, crypto.sha256Hex (utf8 rowHashes.flatten)⟩

theorem maybeCreateManifest_of_seals {id : ℤ} (h : id % manifestInterval = 0) (hseals : call.Seals) :
    ∃ tsUtc, call.maybeCreateManifest crypto id db =
      .ok () { db with manifests := db.manifests ++ [manifest crypto db.events tsUtc id] } := by
  obtain ⟨hselect, ⟨tsUtc, hclock⟩, hinsert⟩ := hseals
  refine ⟨tsUtc, ?_⟩
  unfold maybeCreateManifest
  rw [if_neg (not_not_intro h)]
  refine (Fallible.bind_of_ok (statement_of_none hselect)).trans ?_
  rw [hclock]
  refine (Fallible.bind_of_ok rfl).trans ?_
  exact statement_of_none hinsert

theorem maybeCreateManifest_of_not_seals {id : ℤ} (h : id % manifestInterval = 0)
    (hseals : ¬ call.Seals) : FailsClean (call.maybeCreateManifest crypto id) db := by
  unfold maybeCreateManifest
  rw [if_neg (not_not_intro h)]
  by_cases hselect : call.fails .selectRowHashes = none
  · refine FailsClean.bind_of_ok (statement_of_none hselect) ?_
    by_cases hclock : ∃ tsUtc, call.manifestClock = .ok tsUtc
    · have hinsert : call.fails .insertManifest ≠ none := fun hinsert =>
        hseals ⟨hselect, hclock, hinsert⟩
      obtain ⟨tsUtc, hclock⟩ := hclock
      rw [hclock]
      exact FailsClean.bind_of_ok rfl (failsClean_statement hinsert)
    · exact (failsClean_ofExcept hclock).bind
  · exact (failsClean_statement hselect).bind

/-- Before its row is in, a call fails without a trace. -/
theorem recordEvent_of_not_inserts (h : ¬ call.Inserts) :
    FailsClean (call.recordEvent crypto) db := by
  unfold recordEvent
  by_cases hmode : call.store.mode = .readWrite
  · rw [ensureWritable_eq_ok_iff.2 hmode]
    refine FailsClean.bind_of_ok rfl ?_
    by_cases hselect : call.fails .selectLastHash = none
    · refine FailsClean.bind_of_ok (statement_of_none hselect) ?_
      by_cases hclock : ∃ tsUtc, call.clock = .ok tsUtc
      · have hinsert : call.fails .insertEvent ≠ none := fun hinsert =>
          h ⟨hmode, hselect, hclock, hinsert⟩
        obtain ⟨tsUtc, hclock⟩ := hclock
        rw [hclock]
        exact FailsClean.bind_of_ok rfl (failsClean_statement hinsert).bind
      · exact (failsClean_ofExcept hclock).bind
    · exact (failsClean_statement hselect).bind
  · have hwritable : ¬ ∃ u, call.store.ensureWritable = .ok u := by
      rintro ⟨u, hu⟩
      exact hmode (ensureWritable_eq_ok_iff.1 hu)
    exact (failsClean_ofExcept hwritable).bind

/-- The tables once the row of a call is in. -/
def inserted (crypto : AuditCrypto) (call : RecordAttempt) (db : AuditDb) (tsUtc : Text) : AuditDb :=
  let columns := call.store.columns crypto db.events.lastRowHash call.input tsUtc
  { db with events := db.events.insert columns }

/-- With its row in, a call is its manifest step. -/
theorem recordEvent_of_inserts (h : call.Inserts) :
    ∃ tsUtc, call.clock = .ok tsUtc ∧ call.recordEvent crypto db =
      (call.maybeCreateManifest crypto db.events.nextId >>= fun _ => pure db.events.nextId)
        (inserted crypto call db tsUtc) := by
  obtain ⟨hmode, hselect, ⟨tsUtc, hclock⟩, hinsert⟩ := h
  refine ⟨tsUtc, hclock, ?_⟩
  unfold recordEvent
  rw [ensureWritable_eq_ok_iff.2 hmode, hclock]
  refine (Fallible.bind_of_ok rfl).trans ?_
  refine (Fallible.bind_of_ok (statement_of_none hselect)).trans ?_
  refine (Fallible.bind_of_ok rfl).trans ?_
  exact Fallible.bind_of_ok (statement_of_none hinsert)

/-- **What a call does.**  It fails without a trace, or its row is in: then the manifest step has nothing
to do, or goes through, or fails. -/
theorem recordEvent_cases (crypto : AuditCrypto) (call : RecordAttempt) (db : AuditDb) :
    (¬ call.Inserts ∧ FailsClean (call.recordEvent crypto) db) ∨
    ∃ tsUtc, call.Inserts ∧
      ((db.events.nextId % manifestInterval ≠ 0 ∧ call.recordEvent crypto db =
          .ok db.events.nextId (inserted crypto call db tsUtc)) ∨
        (db.events.nextId % manifestInterval = 0 ∧ call.Seals ∧ ∃ tsUtc',
          call.recordEvent crypto db = .ok db.events.nextId
            { inserted crypto call db tsUtc with manifests := db.manifests ++
              [manifest crypto (inserted crypto call db tsUtc).events tsUtc' db.events.nextId] }) ∨
        (call.Torn db ∧ ∃ err,
          call.recordEvent crypto db = .error err (inserted crypto call db tsUtc))) := by
  by_cases hinserts : call.Inserts
  · right
    obtain ⟨tsUtc, -, hrest⟩ := @recordEvent_of_inserts crypto call db hinserts
    refine ⟨tsUtc, hinserts, ?_⟩
    rw [hrest]
    by_cases hid : db.events.nextId % manifestInterval = 0
    · by_cases hseals : call.Seals
      · obtain ⟨tsUtc', hmanifest⟩ := maybeCreateManifest_of_seals hid hseals
        exact .inr (.inl ⟨hid, hseals, tsUtc', (Fallible.bind_of_ok hmanifest).trans rfl⟩)
      · exact .inr (.inr ⟨⟨hinserts, hid, hseals⟩, (maybeCreateManifest_of_not_seals hid hseals).bind⟩)
    · exact .inl ⟨hid, (Fallible.bind_of_ok (maybeCreateManifest_of_ne hid)).trans rfl⟩
  · exact .inl ⟨hinserts, recordEvent_of_not_inserts hinserts⟩

theorem length_inserted (tsUtc : Text) :
    (inserted crypto call db tsUtc).events.rows.length = db.events.rows.length + 1 :=
  length_insert _

/-- A call leaves a trace of its failure exactly if it is torn. -/
theorem atomic_iff : call.Atomic crypto db ↔ ¬ call.Torn db := by
  unfold Atomic
  rcases recordEvent_cases crypto call db with ⟨hinserts, err, herr⟩ |
    ⟨tsUtc, -, ⟨hid, hok⟩ | ⟨-, hseals, tsUtc', hok⟩ | ⟨htorn, err, herr⟩⟩
  · rw [herr]
    refine iff_of_true (fun err' db' h => ?_) fun htorn => hinserts htorn.1
    injection h with _ hdb
    exact hdb.symm
  · rw [hok]
    exact iff_of_true (fun err' db' h => by cases h) fun htorn => hid htorn.2.1
  · rw [hok]
    exact iff_of_true (fun err' db' h => by cases h) fun htorn => htorn.2.2 hseals
  · rw [herr]
    refine iff_of_false (fun h => ?_) (not_not_intro htorn)
    have hlength := @length_inserted crypto call db tsUtc
    rw [h err _ rfl] at hlength
    omega

/-- On a connection without failures this is `AuditStore.recordEvent`. -/
theorem recordEvent_of_fails_none (hfails : ∀ s, call.fails s = none) (id : ℤ) :
    call.recordEvent crypto db = .ok id db' ↔
      call.store.recordEvent crypto db call.input call.clock call.manifestClock = .ok (id, db') := by
  have hstatement : ∀ {α : Type} s (effect : AuditDb → α × AuditDb),
      call.statement s effect = fun db => .ok (effect db).1 (effect db).2 :=
    fun s effect => funext fun db => statement_of_none (hfails s)
  unfold recordEvent maybeCreateManifest AuditStore.recordEvent AuditStore.maybeCreateManifest
  simp only [hstatement]
  cases call.store.ensureWritable with
  | error err => exact iff_of_false (fun h => by cases h) (fun h => by cases h)
  | ok _ =>
    cases call.clock with
    | error err => exact iff_of_false (fun h => by cases h) (fun h => by cases h)
    | ok tsUtc =>
      simp only [bind, EStateM.bind, Except.bind, ofExcept, pure, EStateM.pure, Except.pure]
      split_ifs with hid
      · simp [EStateM.pure]
      · cases call.manifestClock with
        | error err => exact iff_of_false (fun h => by cases h) (fun h => by cases h)
        | ok tsUtc' =>
          constructor
          · intro h
            injection h with heventId hdb
            subst heventId hdb
            rfl
          · intro h
            injection h with h
            injection h with heventId hdb
            subst heventId hdb
            rfl

end Outcomes

end RecordAttempt

/-! ### Runs of one writer -/

/-- What a manifest says of its block. -/
def AuditManifest.block (m : AuditManifest) : ℤ × ℤ × Text :=
  (m.startEventId, m.endEventId, m.manifestHash)

/-- What there is to say of the block behind `j` blocks: its bounds, and the hash of the hashes of its
rows. -/
def AuditTable.block (crypto : AuditCrypto) (t : AuditTable) (j : ℕ) : ℤ × ℤ × Text :=
  let first := manifestInterval * j + 1
  let last := manifestInterval * (j + 1)
  let rows := t.rows.filter fun row => first ≤ row.eventId ∧ row.eventId ≤ last
  (first, last, crypto.sha256Hex (utf8 (rows.flatMap fun row => row.columns.rowHash)))

/-- The identifiers are `1, …, n`, and there is one manifest for each complete block, in order. -/
structure AuditDb.Sealed (crypto : AuditCrypto) (db : AuditDb) : Prop where
  numbered : db.events.Numbered
  manifests : db.manifests.map AuditManifest.block =
    (List.range (db.events.rows.length / 1000)).map (db.events.block crypto)

namespace RecordAttempt

/-- The tables after the calls of one writer, from an empty database on. -/
def run (crypto : AuditCrypto) (calls : List RecordAttempt) : AuditDb :=
  Runs.run (step crypto) .empty calls

section Sealed

variable {crypto : AuditCrypto} {call : RecordAttempt} {db : AuditDb}

theorem sealed_empty : AuditDb.empty.Sealed crypto := ⟨rfl, rfl⟩

/-- A row behind a block does not touch it. -/
theorem block_insert {t : AuditTable} {j : ℕ} (h : manifestInterval * (j + 1) < t.nextId)
    (columns : AuditColumns) : (t.insert columns).block crypto j = t.block crypto j := by
  unfold AuditTable.block AuditTable.insert
  have hlast : ¬ (manifestInterval * j + 1 ≤ t.nextId ∧ t.nextId ≤ manifestInterval * (j + 1)) := by
    omega
  simp only [List.filter_append, List.filter_singleton, hlast, decide_false, cond_false,
    List.append_nil]

theorem map_block_insert {t : AuditTable} (h : t.Numbered) (columns : AuditColumns) :
    (List.range (t.rows.length / 1000)).map ((t.insert columns).block crypto) =
      (List.range (t.rows.length / 1000)).map (t.block crypto) := by
  refine List.map_congr_left fun j hj => block_insert ?_ columns
  have hid := h.nextId_eq
  have := List.mem_range.1 hj
  unfold manifestInterval
  omega

/-- The manifest of a row at the end of a block says what there is to say of the block. -/
theorem block_manifest {t : AuditTable} {tsUtc : Text} {id : ℤ} {j : ℕ}
    (h : id = manifestInterval * (j + 1)) :
    (manifest crypto t tsUtc id).block = t.block crypto j := by
  subst h
  have hfirst : manifestInterval * (j + 1) - manifestInterval + 1 = manifestInterval * (j : ℤ) + 1 := by
    unfold manifestInterval
    omega
  unfold manifest AuditManifest.block AuditTable.block
  simp only [hfirst, List.flatMap]

/-- **A call that is not torn keeps the database sealed.** -/
theorem sealed_step (hdb : db.Sealed crypto) (h : ¬ call.Torn db) :
    (step crypto db call).Sealed crypto := by
  have hid := hdb.numbered.nextId_eq
  unfold step
  rcases recordEvent_cases crypto call db with ⟨-, err, herr⟩ |
    ⟨tsUtc, -, ⟨hne, hok⟩ | ⟨hzero, -, tsUtc', hok⟩ | ⟨htorn, -⟩⟩
  · rw [herr]
    exact hdb
  · rw [hok]
    refine ⟨hdb.numbered.insert _, ?_⟩
    show db.manifests.map AuditManifest.block = _
    have hcount : (db.events.rows.length + 1) / 1000 = db.events.rows.length / 1000 := by
      unfold manifestInterval at hne
      omega
    rw [hdb.manifests]
    show _ = (List.range ((inserted crypto call db tsUtc).events.rows.length / 1000)).map _
    rw [length_inserted, hcount]
    exact (map_block_insert hdb.numbered _).symm
  · rw [hok]
    refine ⟨hdb.numbered.insert _, ?_⟩
    show (db.manifests ++ [_]).map AuditManifest.block =
      (List.range ((inserted crypto call db tsUtc).events.rows.length / 1000)).map _
    have hcount : (db.events.rows.length + 1) / 1000 = db.events.rows.length / 1000 + 1 := by
      unfold manifestInterval at hzero
      omega
    have hlast : db.events.nextId = manifestInterval * ((db.events.rows.length / 1000 : ℕ) + 1) := by
      unfold manifestInterval at hzero ⊢
      omega
    rw [length_inserted, hcount, List.range_succ, List.map_append, List.map_append, hdb.manifests,
      List.map_singleton, List.map_singleton, block_manifest hlast]
    exact congrArg (· ++ [_]) (map_block_insert hdb.numbered _).symm
  · exact absurd htorn h

/-- A torn call leaves a complete block without its manifest. -/
theorem not_sealed_step (hdb : db.Sealed crypto) (h : call.Torn db) :
    ¬ (step crypto db call).Sealed crypto := by
  unfold step
  rcases recordEvent_cases crypto call db with ⟨hinserts, -⟩ |
    ⟨tsUtc, -, ⟨hne, -⟩ | ⟨-, hseals, -⟩ | ⟨-, err, herr⟩⟩
  · exact absurd h.1 hinserts
  · exact absurd h.2.1 hne
  · exact absurd hseals h.2.2
  · rw [herr]
    rintro ⟨-, hmanifests⟩
    have hid := hdb.numbered.nextId_eq
    have hzero := h.2.1
    have hbefore := congrArg List.length hdb.manifests
    have hafter := congrArg List.length hmanifests
    rw [List.length_map, List.length_map, List.length_range] at hbefore hafter
    change db.manifests.length = (inserted crypto call db tsUtc).events.rows.length / 1000 at hafter
    rw [length_inserted] at hafter
    unfold manifestInterval at hzero
    omega

theorem run_concat (calls : List RecordAttempt) :
    run crypto (calls ++ [call]) = step crypto (run crypto calls) call := by
  unfold run
  rw [Runs.run_append]
  rfl

/-- No call of a run is torn in the state in which it is made. -/
def Untorn (crypto : AuditCrypto) (calls : List RecordAttempt) : Prop :=
  ∀ before call after, calls = before ++ call :: after → ¬ call.Torn (run crypto before)

/-- A run without a torn call keeps the database sealed. -/
theorem sealed_run {calls : List RecordAttempt} (h : Untorn crypto calls) :
    (run crypto calls).Sealed crypto := by
  induction calls using List.reverseRecOn with
  | nil => exact sealed_empty
  | append_singleton calls call ih =>
    rw [run_concat]
    refine sealed_step (ih fun before call' after hcalls => ?_) (h calls call [] rfl)
    refine h before call' (after ++ [call]) ?_
    rw [hcalls, List.append_assoc, List.cons_append]

/-- **A call is atomic unless it is torn, and the manifests of a run are complete unless one is.** -/
theorem record_event_atomic_iff (crypto : AuditCrypto) :
    (∀ (db : AuditDb) (call : RecordAttempt), call.Atomic crypto db ↔ ¬ call.Torn db) ∧
      ∀ calls : List RecordAttempt,
        Untorn crypto calls ↔ ∀ before, before <+: calls → (run crypto before).Sealed crypto := by
  refine ⟨fun db call => atomic_iff, fun calls => ?_⟩
  constructor
  · rintro h before ⟨rest, rfl⟩
    refine sealed_run fun before' call after hbefore => h before' call (after ++ rest) ?_
    rw [hbefore, List.append_assoc, List.cons_append]
  · rintro h before call after rfl htorn
    have hbefore := h before ⟨_, rfl⟩
    have hafter := h (before ++ [call]) ⟨after, by simp⟩
    rw [run_concat] at hafter
    exact not_sealed_step hbefore htorn hafter

/-! ### A disk that is full at the end of a block -/

theorem length_step (h : call.Inserts) :
    (step crypto db call).events.rows.length = db.events.rows.length + 1 := by
  unfold step
  rcases recordEvent_cases crypto call db with ⟨hinserts, -⟩ |
    ⟨tsUtc, -, ⟨-, hok⟩ | ⟨-, -, tsUtc', hok⟩ | ⟨-, err, herr⟩⟩
  · exact absurd h hinserts
  · rw [hok]
    exact length_inserted tsUtc
  · rw [hok]
    exact length_inserted tsUtc
  · rw [herr]
    exact length_inserted tsUtc

/-- A call in which nothing fails, made over and over again, fills a sealed table. -/
theorem run_replicate (hinserts : call.Inserts) (hseals : call.Seals) (n : ℕ) :
    (run crypto (List.replicate n call)).Sealed crypto ∧
      (run crypto (List.replicate n call)).events.rows.length = n := by
  induction n with
  | zero => exact ⟨sealed_empty, rfl⟩
  | succ n ih =>
    rw [List.replicate_succ', run_concat]
    exact ⟨sealed_step ih.1 fun h => h.2.2 hseals, by rw [length_step hinserts, ih.2]⟩

/-- A call in which nothing fails. -/
def soundCall : RecordAttempt where
  input := {}
  clock := .ok "2024-01-01T00:00:00Z".toList
  manifestClock := .ok "2024-01-01T00:00:00Z".toList
  store := ⟨.readWrite, none, 100, 100⟩
  fails := fun _ => none

/-- The same, but for the last statement of it. -/
def fullDisk : RecordAttempt :=
  { soundCall with fails := fun s =>
      if s = .insertManifest then some "database or disk is full".toList else none }

/-- The row of the call that fails after 999 others stays, and its block has no manifest. -/
theorem record_event_not_atomic :
    ¬ fullDisk.Atomic .sha2 (run .sha2 (List.replicate 999 soundCall)) ∧
      ¬ (run .sha2 (List.replicate 999 soundCall ++ [fullDisk])).Sealed .sha2 := by
  obtain ⟨hsealed, hlength⟩ := @run_replicate .sha2 soundCall ⟨rfl, rfl, ⟨_, rfl⟩, rfl⟩
    ⟨rfl, ⟨_, rfl⟩, rfl⟩ 999
  have htorn : fullDisk.Torn (run .sha2 (List.replicate 999 soundCall)) := by
    refine ⟨⟨rfl, rfl, ⟨_, rfl⟩, rfl⟩, ?_, fun h => ?_⟩
    · rw [hsealed.numbered.nextId_eq, hlength]
      rfl
    · have hdisk := h.2.2
      cases hdisk
  refine ⟨fun h => atomic_iff.1 h htorn, ?_⟩
  rw [run_concat]
  exact not_sealed_step hsealed htorn

end Sealed

end RecordAttempt

end OoBot
