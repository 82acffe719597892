import OoBot.Audit.Query
import OoBot.Config

/-!
# The caps of `tail` and `export`

`tail` and `export` of `src/audit/mod.rs` both read through `query_events_capped`, which hands their
limit to SQLite.

* `tail` filters what SQLite has cut already.  `tail_newest_iff` says when it shows the newest events
  that pass all the same.
* `export` cuts at its own cap, and the query cuts once more at the cap for queries.
  `export_newest_iff` says when its own cap is kept.
-/

namespace OoBot

/-! ### What the query reads -/

/-- The number of rows that a limit asks for, of `total` rows. -/
def askedRows (rawLimit total : ℕ) : ℕ :=
  let limit := asI64 (UInt64.ofNat rawLimit)
  if limit < 0 then total else limit.toNat

theorem limitRows_eq_take (rawLimit : ℕ) (rows : List AuditRow) :
    limitRows rawLimit rows = rows.take (askedRows rawLimit rows.length) := by
  unfold limitRows askedRows
  simp only
  split_ifs
  · exact (List.take_length).symm
  · rfl

theorem askedRows_of_lt {rawLimit : ℕ} (h : rawLimit < 2 ^ 63) (total : ℕ) :
    askedRows rawLimit total = rawLimit := by
  have hnat : (UInt64.ofNat rawLimit).toNat = rawLimit := by
    rw [UInt64.toNat_ofNat', Nat.mod_eq_of_lt (by omega)]
  have hlimit : asI64 (UInt64.ofNat rawLimit) = rawLimit := by
    rw [asI64_of_lt (by omega), hnat]
  unfold askedRows
  rw [hlimit]
  simp

/-! ### Tails -/

/-- The filter as a condition on rows. -/
abbrev passes (filter : AuditQueryFilter) (row : AuditRow) : Bool := passesFilter row.columns filter

/-- The newest events that pass: of the `queryMaxRows` newest events those that pass, the newest first,
up to the limit. -/
def AuditTable.newestPassing (t : AuditTable) (queryMaxRows : ℕ) (filter : AuditQueryFilter) :
    List AuditRow :=
  (((t.rows.reverse.take queryMaxRows).filter (passes filter)).mergeSort
    fun a b => b.eventId ≤ a.eventId).take (min (filter.limit.getD 100) queryMaxRows)

/-- Rows that are read from the newest on are in order already. -/
theorem mergeSort_newest (t : AuditTable) (n : ℕ) (p : AuditRow → Bool) :
    (((t.rows.reverse.take n).filter p).mergeSort fun a b => b.eventId ≤ a.eventId) =
      (t.rows.reverse.take n).filter p := by
  refine List.mergeSort_of_pairwise ?_
  have hdesc : t.rows.reverse.Pairwise fun a b => decide (b.eventId ≤ a.eventId) = true := by
    rw [List.pairwise_reverse]
    exact t.sorted.imp fun h => by simpa using h.le
  exact (hdesc.sublist (List.take_sublist _ _)).filter _

theorem AuditTable.tail_eq (t : AuditTable) (queryMaxRows : ℕ) (filter : AuditQueryFilter) :
    t.tail queryMaxRows filter =
      ((t.rows.reverse.take (askedRows (min (filter.limit.getD queryMaxRows) queryMaxRows)
        t.rows.length)).filter (passes filter)).take (min (filter.limit.getD 100) queryMaxRows) := by
  unfold tail queryEventsCapped
  simp only [limitRows_eq_take, List.length_reverse, mergeSort_newest]

/-- What is left of a longer prefix after a filter and a cut is left of a shorter one exactly when that
is enough for the cut, or nothing more passes. -/
theorem take_filter_take_eq_iff {α : Type*} (p : α → Bool) (l : List α) {low high : ℕ}
    (h : low ≤ high) (cap : ℕ) :
    ((l.take low).filter p).take cap = ((l.take high).filter p).take cap ↔
      cap ≤ (l.take low).countP p ∨ ∀ x ∈ (l.take high).drop low, p x = false := by
  have hsplit : l.take high = l.take low ++ (l.take high).drop low := by
    have hlow : (l.take high).take low = l.take low := by
      rw [List.take_take, Nat.min_eq_left h]
    rw [← hlow, List.take_append_drop]
  generalize (l.take high).drop low = more at hsplit
  rw [hsplit, List.filter_append, List.countP_eq_length_filter]
  have hnone : (∀ x ∈ more, p x = false) ↔ more.filter p = [] := by
    simp only [List.filter_eq_nil_iff, Bool.not_eq_true]
  rw [hnone]
  generalize (l.take low).filter p = few
  generalize more.filter p = rest
  constructor
  · intro heq
    have hlen := congrArg List.length heq
    simp only [List.length_take, List.length_append] at hlen
    by_cases hcap : cap ≤ few.length
    · exact Or.inl hcap
    · exact Or.inr (List.eq_nil_of_length_eq_zero (by omega))
  · rintro (hcap | rfl)
    · rw [List.take_append_of_le_length hcap]
    · rw [List.append_nil]

/-- The limit that SQLite is given cuts off no event that belongs to the answer: of the rows that both
read, enough pass for the answer, or none of the others passes. -/
def AuditTable.LimitSuffices (t : AuditTable) (queryMaxRows : ℕ) (filter : AuditQueryFilter) : Prop :=
  let asked := askedRows (min (filter.limit.getD queryMaxRows) queryMaxRows) t.rows.length
  min (filter.limit.getD 100) queryMaxRows ≤
      (t.rows.reverse.take (min asked queryMaxRows)).countP (passes filter) ∨
    ∀ row ∈ (t.rows.reverse.take (max asked queryMaxRows)).drop (min asked queryMaxRows),
      passes filter row = false

instance (t : AuditTable) (queryMaxRows : ℕ) (filter : AuditQueryFilter) :
    Decidable (t.LimitSuffices queryMaxRows filter) := by
  unfold AuditTable.LimitSuffices
  infer_instance

/-- **When `tail` shows the newest events that pass.** -/
theorem tail_newest_iff (t : AuditTable) (queryMaxRows : ℕ) (filter : AuditQueryFilter) :
    t.tail queryMaxRows filter = t.newestPassing queryMaxRows filter ↔
      t.LimitSuffices queryMaxRows filter := by
  unfold AuditTable.LimitSuffices AuditTable.newestPassing
  rw [AuditTable.tail_eq, mergeSort_newest]
  simp only
  generalize askedRows (min (filter.limit.getD queryMaxRows) queryMaxRows) t.rows.length = asked
  rcases Nat.le_total asked queryMaxRows with h | h
  · rw [Nat.min_eq_left h, Nat.max_eq_right h]
    exact take_filter_take_eq_iff _ _ h _
  · rw [Nat.min_eq_right h, Nat.max_eq_left h, eq_comm]
    exact take_filter_take_eq_iff _ _ h _

/-- Without a limit below the cap of the query, in the range of `i64`, the condition holds. -/
theorem AuditTable.limitSuffices_of_le (t : AuditTable) {queryMaxRows : ℕ} {filter : AuditQueryFilter}
    (hcap : queryMaxRows < 2 ^ 63) (h : ∀ limit, filter.limit = some limit → queryMaxRows ≤ limit) :
    t.LimitSuffices queryMaxRows filter := by
  have hraw : min (filter.limit.getD queryMaxRows) queryMaxRows = queryMaxRows := by
    cases hlimit : filter.limit with
    | none => exact Nat.min_self _
    | some limit => exact Nat.min_eq_right (h limit hlimit)
  unfold LimitSuffices
  rw [hraw, askedRows_of_lt hcap]
  refine Or.inr fun row hrow => ?_
  rw [Nat.max_self, Nat.min_self, List.drop_eq_nil_of_le (List.length_take_le _ _)] at hrow
  cases hrow

/-- With a limit below it, the newest `limit` events have to pass all, or no event behind them that the
cap of the query admits may pass. -/
theorem AuditTable.limitSuffices_iff_of_lt (t : AuditTable) {queryMaxRows limit : ℕ}
    {filter : AuditQueryFilter} (hlimit : filter.limit = some limit) (h : limit < queryMaxRows)
    (hcap : limit < 2 ^ 63) :
    t.LimitSuffices queryMaxRows filter ↔
      limit ≤ (t.rows.reverse.take limit).countP (passes filter) ∨
        ∀ row ∈ (t.rows.reverse.take queryMaxRows).drop limit, passes filter row = false := by
  unfold LimitSuffices
  rw [hlimit, Option.getD_some, Option.getD_some, Nat.min_eq_left h.le, askedRows_of_lt hcap]
  simp only [Nat.min_eq_left h.le, Nat.max_eq_right h.le]

/-- A store that is opened for writing. -/
def openStore : AuditStore := ⟨.readWrite, none, 100, 100⟩

/-- Two events, the newer one in another mode. -/
def modeChange : AuditTable :=
  let first := AuditTable.empty.insert
    (openStore.columns .sha2 AuditTable.genesis {} "2024-01-01T00:00:00Z".toList)
  first.insert (openStore.columns .sha2 first.lastRowHash { mode := "react_only".toList }
    "2024-01-01T00:00:01Z".toList)

/-- The newest event in the mode `normal`. -/
def newestNormal : AuditQueryFilter := { mode := some "normal".toList, limit := some 1 }

/-- It is there, and `tail` shows nothing. -/
theorem tail_misses_event :
    modeChange.tail 100 newestNormal = [] ∧
      (modeChange.newestPassing 100 newestNormal).map AuditRow.eventId = [1] ∧
      modeChange.tail 100 newestNormal ≠ modeChange.newestPassing 100 newestNormal := by
  have htail : modeChange.tail 100 newestNormal = [] := by
    rw [AuditTable.tail_eq]
    have hids : ((modeChange.rows.reverse.take (askedRows
        (min (newestNormal.limit.getD 100) 100) modeChange.rows.length)).filter
          (passes newestNormal)).length = 0 := by decide
    rw [List.eq_nil_of_length_eq_zero hids, List.take_nil]
  have hnewest : (modeChange.newestPassing 100 newestNormal).map AuditRow.eventId = [1] := by
    unfold AuditTable.newestPassing
    rw [mergeSort_newest]
    decide
  refine ⟨htail, hnewest, ?_⟩
  intro heq
  rw [← heq, htail] at hnewest
  cases hnewest

/-! ### Exports -/

/-- `ExportFormat`. -/
inductive ExportFormat
  | jsonl
  | csv
  | parquet
  deriving DecidableEq, Repr

/-- What `validate_export_output_path` asks about the parent of a path: whether it is empty, what
`create_dir_all` answers, and whether it is a symbolic link then. -/
structure ExportParent where
  isEmpty : Bool
  createDirAll : Except Text Unit
  isSymlink : Bool

/-- What `validate_export_output_path` asks about a path. -/
structure ExportPath where
  isEmpty : Bool
  hasParentDir : Bool
  isDir : Bool
  pathExists : Bool
  parent : Option ExportParent

/-- `validate_export_output_path`. -/
def validateExportOutputPath (path : ExportPath) : Except Text Unit :=
  if path.isEmpty then .error "export path is empty".toList
  else if path.hasParentDir then .error "export path must not contain '..'".toList
  else if path.isDir then .error "export path points to a directory".toList
  else if path.pathExists then
    .error "export destination already exists; refusing to overwrite".toList
  else
    match path.parent with
    | none => .ok ()
    | some parent =>
        if parent.isEmpty then .ok ()
        else
          match parent.createDirAll with
          | .error err => .error err
          | .ok () =>
              if parent.isSymlink then
                .error "export parent directory must not be a symlink".toList
              else .ok ()

/-- `export_jsonl`, `export_csv` and `export_parquet`: what comes of writing rows to the path. -/
abbrev ExportWriter := ExportFormat → List AuditRow → Except Text Unit

/-- A finished export: the rows that were written, and the number that is returned. -/
structure Exported where
  rows : List AuditRow
  count : ℕ

/-- `export`. -/
def AuditStore.exportTo (self : AuditStore) (t : AuditTable) (write : ExportWriter)
    (format : ExportFormat) (outPath : ExportPath) (filter : AuditQueryFilter) :
    Except Text Exported := do
  validateExportOutputPath outPath
  let filter := { filter with
    limit := some (min (filter.limit.getD self.exportMaxRows) self.exportMaxRows) }
  let rows := (t.queryEventsCapped self.queryMaxRows filter).mergeSort
    fun a b => a.eventId ≤ b.eventId
  write format rows
  pure ⟨rows, rows.length⟩

/-- The store that `open_rw` and `open_ro` give: its caps are those of the configuration. -/
def AuditConfig.store (cfg : AuditConfig) (mode : AuditStoreMode)
    (pseudoIdHmacKey : Option (List UInt8)) : AuditStore where
  mode := mode
  pseudoIdHmacKey := pseudoIdHmacKey
  exportMaxRows := cfg.exportMaxRows
  queryMaxRows := cfg.queryMaxRows

/-- The newest `n` events, the oldest of them first. -/
def AuditTable.newest (t : AuditTable) (n : ℕ) : List AuditRow := t.rows.drop (t.rows.length - n)

/-- What is read from the newest on is sorted into the order of the table. -/
theorem mergeSort_oldest (t : AuditTable) (n : ℕ) :
    ((t.rows.reverse.take n).mergeSort fun a b => a.eventId ≤ b.eventId) = t.newest n := by
  have hsorted : (t.newest n).Pairwise fun a b => decide (a.eventId ≤ b.eventId) = true :=
    (t.sorted.sublist (List.drop_sublist _ _)).imp fun h => by simpa using h.le
  have hperm : (t.rows.reverse.take n).Perm (t.newest n) := by
    rw [List.take_reverse]
    exact List.reverse_perm _
  have hids : ((t.newest n).map AuditRow.eventId).Nodup :=
    List.pairwise_map.2 ((t.sorted.sublist (List.drop_sublist _ _)).imp fun h => h.ne)
  have hsort := List.mergeSort_perm (t.rows.reverse.take n) fun a b => a.eventId ≤ b.eventId
  refine List.Perm.eq_of_pairwise ?_ (List.pairwise_mergeSort ?_ ?_ _) hsorted (hsort.trans hperm)
  · -- identifiers are distinct
    intro a b ha hb hab hba
    simp only [decide_eq_true_eq] at hab hba
    exact List.inj_on_of_nodup_map hids ((hsort.trans hperm).mem_iff.1 ha) hb (hab.antisymm hba)
  · intro a b c hab hbc
    simp only [decide_eq_true_eq] at hab hbc ⊢
    exact hab.trans hbc
  · intro a b
    simp only [Bool.or_eq_true, decide_eq_true_eq]
    exact le_total _ _

/-- A filter with a limit alone lets every event pass. -/
theorem queryEventsCapped_limit (t : AuditTable) {queryMaxRows : ℕ} (hcap : queryMaxRows < 2 ^ 63)
    (limit : ℕ) :
    t.queryEventsCapped queryMaxRows { limit := some limit } =
      t.rows.reverse.take (min limit queryMaxRows) := by
  unfold AuditTable.queryEventsCapped
  simp only [Option.getD_some]
  rw [limitRows_of_lt (by omega)]
  exact List.filter_eq_self.2 fun row _ => rfl

/-- An export without a further filter. -/
theorem AuditStore.exportTo_limit {self : AuditStore} (hcap : self.queryMaxRows < 2 ^ 63)
    (t : AuditTable) (write : ExportWriter) (format : ExportFormat) (outPath : ExportPath)
    (limit : Option ℕ) :
    self.exportTo t write format outPath { limit := limit } = (do
      validateExportOutputPath outPath
      let rows := t.newest (min (min (limit.getD self.exportMaxRows) self.exportMaxRows)
        self.queryMaxRows)
      write format rows
      pure ⟨rows, rows.length⟩) := by
  unfold exportTo
  simp only [queryEventsCapped_limit t hcap, mergeSort_oldest]

/-- What it writes and returns when it succeeds. -/
theorem AuditStore.exportTo_eq_ok {self : AuditStore} (hcap : self.queryMaxRows < 2 ^ 63)
    {t : AuditTable} {write : ExportWriter} {format : ExportFormat} {outPath : ExportPath}
    {limit : Option ℕ} {done : Exported}
    (h : self.exportTo t write format outPath { limit := limit } = .ok done) :
    done.rows = t.newest (min (min (limit.getD self.exportMaxRows) self.exportMaxRows)
        self.queryMaxRows) ∧
      done.count = done.rows.length := by
  rw [exportTo_limit hcap] at h
  cases hpath : validateExportOutputPath outPath with
  | error err =>
    rw [hpath] at h
    cases h
  | ok _ =>
    rw [hpath] at h
    simp only [bind, Except.bind] at h
    cases hwrite : write format (t.newest (min (min (limit.getD self.exportMaxRows)
        self.exportMaxRows) self.queryMaxRows)) with
    | error err =>
      rw [hwrite] at h
      cases h
    | ok _ =>
      rw [hwrite] at h
      injection h with h
      subst h
      exact ⟨rfl, rfl⟩

theorem AuditTable.newest_of_le (t : AuditTable) {n : ℕ} (h : t.rows.length ≤ n) :
    t.newest n = t.rows := by
  rw [newest, Nat.sub_eq_zero_of_le h, List.drop_zero]

/-- The cap of the query is at most a million in an accepted configuration. -/
theorem queryMaxRows_of_validate {F : Type} {cfg : StartupConfig F}
    (h : validateConfig cfg = .ok ()) : cfg.audit.queryMaxRows ≤ 1000000 := by
  simp only [validateConfig, bind_ok, rejectIf_ok, Bool.or_eq_false_iff] at h
  have hquery := h.2.2.2.1.2
  simpa using hquery

/-- **When `export` keeps its own cap.**  Under a configuration that is accepted, a successful export
with a limit alone writes the newest events, as many as the limit, its own cap and the table allow, and
returns their number, exactly when that many are no more than the cap for queries. -/
theorem export_newest_iff {F : Type} {cfg : StartupConfig F} (hcfg : validateConfig cfg = .ok ())
    (mode : AuditStoreMode) (key : Option (List UInt8)) (t : AuditTable) (write : ExportWriter)
    (format : ExportFormat) (outPath : ExportPath) (limit : Option ℕ) {done : Exported}
    (hdone : (cfg.audit.store mode key).exportTo t write format outPath { limit := limit } =
      .ok done) :
    (done.rows = t.newest (min (min (limit.getD cfg.audit.exportMaxRows) cfg.audit.exportMaxRows)
        t.rows.length) ∧
      done.count = min (min (limit.getD cfg.audit.exportMaxRows) cfg.audit.exportMaxRows)
        t.rows.length) ↔
      min (min (limit.getD cfg.audit.exportMaxRows) cfg.audit.exportMaxRows) t.rows.length ≤
        cfg.audit.queryMaxRows := by
  have hmax := queryMaxRows_of_validate hcfg
  have hcap : (cfg.audit.store mode key).queryMaxRows < 2 ^ 63 := by
    show cfg.audit.queryMaxRows < 2 ^ 63
    omega
  obtain ⟨hrows, hcount⟩ := AuditStore.exportTo_eq_ok hcap hdone
  have hrows' : done.rows = t.newest (min (min (limit.getD cfg.audit.exportMaxRows)
    cfg.audit.exportMaxRows) cfg.audit.queryMaxRows) := hrows
  generalize min (limit.getD cfg.audit.exportMaxRows) cfg.audit.exportMaxRows = own at *
  have hlen : done.count = min (min own cfg.audit.queryMaxRows) t.rows.length := by
    rw [hcount, hrows', AuditTable.newest, List.length_drop]
    omega
  constructor
  · rintro ⟨-, hexpected⟩
    omega
  · intro hle
    refine ⟨?_, by omega⟩
    rw [hrows']
    by_cases hquery : own ≤ cfg.audit.queryMaxRows
    · rw [Nat.min_eq_left hquery]
      by_cases hall : own ≤ t.rows.length
      · rw [Nat.min_eq_left hall]
      · rw [Nat.min_eq_right (by omega), t.newest_of_le (by omega), t.newest_of_le (Nat.le_refl _)]
    · rw [Nat.min_eq_right (Nat.le_of_not_le hquery), Nat.min_eq_right (by omega),
        t.newest_of_le (by omega), t.newest_of_le (Nat.le_refl _)]

/-- Under the canonical configuration an export without a limit ends at the cap for queries. -/
theorem canonical_export_count {F : Type} [F64 F] {mode : AuditStoreMode} {key : Option (List UInt8)}
    {t : AuditTable} {write : ExportWriter} {format : ExportFormat} {outPath : ExportPath}
    {done : Exported}
    (h : ((canonicalStartupConfig F).audit.store mode key).exportTo t write format outPath {} =
      .ok done) : done.count = min 10000 t.rows.length := by
  obtain ⟨hrows, hcount⟩ := @AuditStore.exportTo_eq_ok
    ((canonicalStartupConfig F).audit.store mode key) (by show (10000 : ℕ) < 2 ^ 63; decide) t write
    format outPath none done h
  have hcaps : min (min ((none : Option ℕ).getD 50000) 50000) 10000 = 10000 := by decide
  have hnewest : done.rows = t.newest 10000 := by
    rw [hrows, ← hcaps]
    rfl
  rw [hcount, hnewest, AuditTable.newest, List.length_drop]
  omega

/-- A file that is not there yet, in a directory that is. -/
def freshPath : ExportPath := ⟨false, false, false, false, some ⟨false, .ok (), false⟩⟩

/-- Two events, exported under the canonical configuration. -/
theorem export_newest_canonical :
    (⟨modeChange.newest 2, 2⟩ : Exported).rows =
        modeChange.newest (min (min ((none : Option ℕ).getD 50000) 50000) modeChange.rows.length) ∧
      (⟨modeChange.newest 2, 2⟩ : Exported).count =
        min (min ((none : Option ℕ).getD 50000) 50000) modeChange.rows.length :=
  (@export_newest_iff ℚ _ (validateConfig_canonical ℚ) .readOnly none modeChange
    (fun _ _ => .ok ()) .jsonl freshPath none ⟨modeChange.newest 2, 2⟩ (by
      rw [AuditStore.exportTo_limit (by decide)]
      rfl)).2 (by decide)

/-- The canonical configuration with smaller caps. -/
def smallCapsConfig : StartupConfig ℚ :=
  { canonicalStartupConfig ℚ with
    audit := { canonicalAuditConfig with exportMaxRows := 2, queryMaxRows := 1 } }

/-- A configuration that is accepted and admits two rows to an export, and an export that succeeds with
one row of two. -/
theorem export_cut_short :
    validateConfig smallCapsConfig = .ok () ∧
      ∃ done, (smallCapsConfig.audit.store .readOnly none).exportTo modeChange (fun _ _ => .ok ())
          .jsonl freshPath {} = .ok done ∧
        done.rows.map AuditRow.eventId = [2] ∧ done.count = 1 ∧
        min smallCapsConfig.audit.exportMaxRows modeChange.rows.length = 2 := by
  refine ⟨by decide, ⟨modeChange.newest 1, 1⟩, ?_, by decide, rfl, by decide⟩
  have hexport := @AuditStore.exportTo_limit (smallCapsConfig.audit.store .readOnly none)
    (by decide) modeChange (fun _ _ => .ok ()) .jsonl freshPath none
  rw [hexport]
  rfl

end OoBot
