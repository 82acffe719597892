import OoBot.Audit.Payload
import OoBot.Audit.Caps
import OoBot.Lib.FileOps
import OoBot.Text.Lines

/-!
# Exports

`export` of `src/audit/mod.rs` on a disk: `validate_export_output_path`, `secure_create_output_file` and
`export_jsonl`, which writes a line for each row.  What the crates `csv` and `parquet` make of the rows is a
parameter.

* No file is ever overwritten, and only the one at the path of the export may appear (`export_frame`).
* A line is the JSON text of a row, so the file tells its rows (`jsonl_lines`, `jsonlText_inj`), and the
  number that is returned is that of the lines (`export_exact`).
-/

namespace OoBot

open Delimited Fallible Files

/-! ### Rows -/

/-- An `AuditEventRow`, as `serde` writes its fields: the payload is none of them. -/
def AuditRow.json (row : AuditRow) : Json.Value :=
  .object
    [("event_id".toList, .number row.eventId),
      ("ts_utc".toList, .string row.columns.tsUtc),
      ("event_type".toList, .string row.columns.eventType),
      ("schema_version".toList, .number row.columns.schemaVersion),
      ("binary_version".toList, .string row.columns.binaryVersion),
      ("config_fingerprint".toList, .string row.columns.configFingerprint),
      ("detector_backend".toList, .string row.columns.detectorBackend),
      ("matched_readings_json".toList, .string row.columns.matchedReadingsJson),
      ("sequence_hits".toList, .number row.columns.sequenceHits),
      ("kanji_hits".toList, .number row.columns.kanjiHits),
      ("total_count".toList, .number row.columns.totalCount),
      ("special_phrase_hit".toList, .number row.columns.specialPhraseHit),
      ("selected_action".toList, .string row.columns.selectedAction),
      ("suppressed_reason".toList, .string row.columns.suppressedReason),
      ("mode".toList, .string row.columns.mode),
      ("active_lsm".toList, .string row.columns.activeLsm),
      ("hardening_status".toList, .string row.columns.hardeningStatus),
      ("processing_time_ms".toList, .number row.columns.processingTimeMs),
      ("message_length".toList, .number row.columns.messageLength),
      ("normalized_length".toList, .number row.columns.normalizedLength),
      ("token_count".toList, .number row.columns.tokenCount),
      ("suspicious_flags_json".toList, .string row.columns.suspiciousFlagsJson),
      ("truncated_flag".toList, .number row.columns.truncatedFlag),
      ("pseudo_guild_id".toList, .string row.columns.pseudoGuildId),
      ("pseudo_channel_id".toList, .string row.columns.pseudoChannelId),
      ("pseudo_user_id".toList, .string row.columns.pseudoUserId),
      ("pseudo_message_id".toList, .string row.columns.pseudoMessageId),
      ("prev_hash".toList, .string row.columns.prevHash),
      ("row_hash".toList, .string row.columns.rowHash)]

/-- `map_audit_event_row`: the row without its payload. -/
def AuditRow.withoutPayload (row : AuditRow) : AuditRow :=
  { row with columns := { row.columns with normalizedPayloadJson := [] } }

/-- The line of a row. -/
def AuditRow.line (row : AuditRow) : Text := Json.text serdeEscape row.json

/-- What `export_jsonl` writes. -/
def jsonlText (rows : List AuditRow) : Text := unlines (rows.map AuditRow.line)

theorem AuditRow.json_inj {row row' : AuditRow} (h : row.json = row'.json) :
    row.withoutPayload = row'.withoutPayload := by
  obtain ⟨id, columns⟩ := row
  obtain ⟨id', columns'⟩ := row'
  have hfields := Json.Value.object.inj h
  simp only [List.cons.injEq, Prod.mk.injEq, Json.Value.string.injEq, Json.Value.number.injEq,
    true_and, and_true] at hfields
  simp only [withoutPayload, AuditRow.mk.injEq, AuditColumns.mk.injEq, and_true]
  exact hfields

/-! ### Lines -/

/-- Lines that hold no control characters are read as they were written. -/
theorem lines_unlines {ls : List Text} (h : ∀ l ∈ ls, ∀ c ∈ l, 32 ≤ c.toNat) :
    lines (unlines ls) = ls := by
  induction ls with
  | nil => rfl
  | cons l ls ih =>
    have hl : '\n' ∉ l := fun hc => absurd (h l List.mem_cons_self _ hc) (by decide)
    have hcr : stripCr l = l := by
      refine if_neg fun hlast => ?_
      exact absurd (h l List.mem_cons_self _ (List.mem_of_getLast? hlast)) (by decide)
    have hunlines : unlines (l :: ls) = l ++ '\n' :: unlines ls := by
      simp [unlines]
    rw [hunlines, lines_append_newline hl, hcr, ih fun l' hl' => h l' (List.mem_cons_of_mem _ hl')]

/-- The lines of the file are those of the rows. -/
theorem jsonl_lines (rows : List AuditRow) : lines (jsonlText rows) = rows.map AuditRow.line := by
  refine lines_unlines fun l hl c hc => ?_
  obtain ⟨row, -, rfl⟩ := List.mem_map.1 hl
  exact le_of_mem_json hc

theorem AuditRow.line_inj {row row' : AuditRow} (h : row.line = row'.line) :
    row.withoutPayload = row'.withoutPayload :=
  json_inj (Json.text_injective h)

/-- The file tells its rows. -/
theorem jsonlText_inj {rows rows' : List AuditRow} (h : jsonlText rows = jsonlText rows') :
    rows.map AuditRow.withoutPayload = rows'.map AuditRow.withoutPayload := by
  have hlines : rows.map AuditRow.line = rows'.map AuditRow.line := by
    rw [← jsonl_lines, ← jsonl_lines, h]
  clear h
  induction rows generalizing rows' with
  | nil => rw [List.map_eq_nil_iff.1 hlines.symm]
  | cons row rows ih =>
    cases rows' with
    | nil => cases hlines
    | cons row' rows' =>
      obtain ⟨hline, hrest⟩ := List.cons.inj hlines
      rw [List.map_cons, List.map_cons, AuditRow.line_inj hline, ih hrest]

/-! ### The file -/

/-- What may fail of an export: making the directories, creating the file, and writing it. -/
structure ExportFaults where
  dirs : Option Fault
  create : Option Fault
  write : Option Fault

/-- `validate_export_output_path`, on a disk; there are no symbolic links on it. -/
def validateOutputPath (fault : Option Fault) (cwd : Place) (path : Path) : EStateM Text Disk Unit := do
  if path = .empty then throw "export path is empty".toList
  else if Step.parentDir ∈ path.steps then throw "export path must not contain '..'".toList
  else
    let disk ← get
    if disk.nodes (path.place cwd) = some .dir then
      throw "export path points to a directory".toList
    else if disk.nodes (path.place cwd) ≠ none then
      throw "export destination already exists; refusing to overwrite".toList
    else
      match path.parent with
      | none => pure ()
      | some parent =>
          if parent = .empty then pure ()
          else EStateM.adaptExcept IoError.text (createDirAll fault cwd parent)

/-- `secure_create_output_file`, and what is written to the file. -/
def writeExport (faults : ExportFaults) (cwd : Place) (path : Path) (bytes : Bytes) :
    EStateM Text Disk Unit :=
  match path.place cwd with
  | [] => throw IoError.alreadyExists.text
  | name :: dir => EStateM.adaptExcept IoError.text do
      createNew faults.create (.file []) name dir
      writeAll faults.write name dir bytes

/-- What a crate makes of the rows: an error before there is a file, or the bytes that are written to it,
and the error that comes then. -/
abbrev ForeignFormat := List AuditRow → Except Text (Bytes × Option Text)

/-- `export_jsonl`, `export_csv` and `export_parquet`. -/
def exportBytes (csv parquet : ForeignFormat) : ExportFormat → ForeignFormat
  | .jsonl => fun rows => .ok (utf8 (jsonlText rows), none)
  | .csv => csv
  | .parquet => parquet

/-- The rows of an export: capped, filtered and in the order of the table. -/
def AuditStore.exportedRows (self : AuditStore) (t : AuditTable) (filter : AuditQueryFilter) :
    List AuditRow :=
  let filter := { filter with
    limit := some (min (filter.limit.getD self.exportMaxRows) self.exportMaxRows) }
  (t.queryEventsCapped self.queryMaxRows filter).mergeSort fun a b => a.eventId ≤ b.eventId

/-- `export`. -/
def AuditStore.exportOn (self : AuditStore) (t : AuditTable) (format : ForeignFormat)
    (faults : ExportFaults) (cwd : Place) (outPath : Path) (filter : AuditQueryFilter) :
    EStateM Text Disk ℕ := do
  validateOutputPath faults.dirs cwd outPath
  let rows := self.exportedRows t filter
  let (bytes, err) ← ofExcept (format rows)
  writeExport faults cwd outPath bytes
  match err with
  | some err => throw err
  | none => pure rows.length

/-! ### What an export changes -/

section Export

variable {store : AuditStore} {t : AuditTable} {format : ForeignFormat} {faults : ExportFaults}
  {cwd q : Place} {path : Path} {filter : AuditQueryFilter} {disk disk' : Disk} {bytes : Bytes}

/-- What `exportTo` writes are these rows. -/
theorem exportTo_rows {write : ExportWriter} {kind : ExportFormat} {outPath : ExportPath}
    {done : Exported} (h : store.exportTo t write kind outPath filter = .ok done) :
    done.rows = store.exportedRows t filter ∧ done.count = (store.exportedRows t filter).length := by
  unfold AuditStore.exportTo at h
  obtain ⟨_, -, h⟩ := except_bind_ok_iff.1 h
  obtain ⟨_, -, h⟩ := except_bind_ok_iff.1 h
  cases h
  exact ⟨rfl, rfl⟩

theorem keeps_validateOutputPath {fault : Option Fault} :
    Keeps (fun disk => disk.contents q) (validateOutputPath fault cwd path) := by
  unfold validateOutputPath
  split_ifs
  · exact Keeps.throw _
  · exact Keeps.throw _
  · refine Keeps.bind Keeps.get fun disk => ?_
    split_ifs
    · exact Keeps.throw _
    · exact Keeps.throw _
    · cases path.parent with
      | none => exact Keeps.pure _
      | some parent =>
        dsimp only
        split_ifs
        · exact Keeps.pure _
        · exact Keeps.adaptExcept keeps_createDirAll

/-- What is there is not overwritten. -/
theorem validateOutputPath_of_taken {fault : Option Fault} (h : disk.nodes (path.place cwd) ≠ none) :
    ∃ err, validateOutputPath fault cwd path disk = .error err disk := by
  unfold validateOutputPath
  split_ifs
  · exact ⟨_, rfl⟩
  · exact ⟨_, rfl⟩
  · rw [get_bind]
    split_ifs
    · exact ⟨_, rfl⟩
    · exact ⟨_, rfl⟩

theorem free_of_validateOutputPath {fault : Option Fault} {u : Unit}
    (h : validateOutputPath fault cwd path disk = .ok u disk') : disk.nodes (path.place cwd) = none := by
  by_contra htaken
  obtain ⟨err, herr⟩ := @validateOutputPath_of_taken cwd path disk fault htaken
  rw [herr] at h
  cases h

theorem keeps_writeExport (hq : q ≠ path.place cwd) :
    Keeps (fun disk => disk.contents q) (writeExport faults cwd path bytes) := by
  unfold writeExport
  split
  next => exact Keeps.throw _
  next name dir hplace =>
    rw [hplace] at hq
    refine Keeps.adaptExcept (Keeps.bind (fun disk => ?_) fun _ => fun disk => ?_)
    · exact Disk.contents_congr (keeps_createNew hq disk)
    · exact Disk.contents_congr (keeps_writeAll hq disk)

/-- The last file at the place of an export is the one it wrote. -/
theorem contents_put_written {name : Name} {dir : Place} (hnew : disk.nodes (name :: dir) = none)
    (hdir : disk.nodes dir = some .dir) :
    ((disk.put name dir (.file [])).put name dir (.file bytes)).contents (name :: dir) = some bytes := by
  rw [Disk.put_put hnew hdir, Disk.contents_eq_some_iff,
    Disk.nodes_put (Disk.canPut_of_none hdir hnew), if_pos rfl]

theorem writeExport_ok (h : writeExport faults cwd path bytes disk = .ok () disk') :
    disk.nodes (path.place cwd) = none ∧ disk'.contents (path.place cwd) = some bytes := by
  unfold writeExport at h
  cases hplace : path.place cwd with
  | nil =>
    rw [hplace] at h
    exact absurd h throw_ne_ok
  | cons name dir =>
    rw [hplace] at h
    obtain ⟨made, hmade, hwrite⟩ := seq_ok_iff.1 (adaptExcept_ok_iff.1 h)
    obtain ⟨-, hnew, hdir, rfl⟩ := createNew_ok_iff.1 hmade
    obtain ⟨-, rfl⟩ := writeAll_ok_iff.1 hwrite
    exact ⟨hnew, contents_put_written hnew hdir⟩

/-- What fails has written nothing, or some of the bytes. -/
theorem writeExport_error {err : Text} (h : writeExport faults cwd path bytes disk = .error err disk') :
    disk'.contents (path.place cwd) = disk.contents (path.place cwd) ∨
      disk.nodes (path.place cwd) = none ∧
        ∃ k, disk'.contents (path.place cwd) = some (bytes.take k) := by
  unfold writeExport at h
  cases hplace : path.place cwd with
  | nil =>
    rw [hplace] at h
    cases h
    exact .inl rfl
  | cons name dir =>
    rw [hplace] at h
    obtain ⟨_, -, hfails⟩ := adaptExcept_error_iff.1 h
    rcases bind_error_iff.1 hfails with hcreate | ⟨_, made, hmade, hwrite⟩
    · rw [createNew_error hcreate]
      exact .inl rfl
    · obtain ⟨-, hnew, hdir, rfl⟩ := createNew_ok_iff.1 hmade
      obtain ⟨k, rfl⟩ := writeAll_error hwrite
      exact .inr ⟨hnew, k, contents_put_written hnew hdir⟩

/-! ### Exports -/

/-- **No export overwrites a file.**  However an export ends, the files that were there are there with the
same contents, and no other place than its path holds a file that was not there. -/
theorem export_frame (h : q = path.place cwd → disk.nodes q ≠ none) :
    (after (store.exportOn t format faults cwd path filter disk)).contents q = disk.contents q := by
  by_cases hq : q = path.place cwd
  · subst hq
    obtain ⟨err, herr⟩ := @validateOutputPath_of_taken cwd path disk faults.dirs (h rfl)
    have hfails : store.exportOn t format faults cwd path filter disk = .error err disk :=
      bind_error_iff.2 (.inl herr)
    rw [hfails]
    rfl
  · refine keeps_validateOutputPath.bind (fun _ => ?_) disk
    refine (Keeps.ofExcept _).bind fun written => (keeps_writeExport hq).bind fun _ => ?_
    cases written.2 with
    | none => exact Keeps.pure _
    | some err => exact Keeps.throw _

/-- What a successful export leaves. -/
theorem export_ok {n : ℕ} (h : store.exportOn t format faults cwd path filter disk = .ok n disk') :
    disk.nodes (path.place cwd) = none ∧ n = (store.exportedRows t filter).length ∧
      ∃ bytes, format (store.exportedRows t filter) = .ok (bytes, none) ∧
        disk'.contents (path.place cwd) = some bytes := by
  unfold AuditStore.exportOn at h
  obtain ⟨_, valid, hvalid, hrows⟩ := bind_ok_iff.1 h
  obtain ⟨⟨bytes, err⟩, made, hformat, hwrite⟩ := bind_ok_iff.1 hrows
  obtain ⟨hbytes, rfl⟩ := ofExcept_ok_iff.1 hformat
  obtain ⟨written, hwritten, hend⟩ := seq_ok_iff.1 hwrite
  obtain ⟨-, hcontents⟩ := writeExport_ok hwritten
  have hnew : disk.nodes (path.place cwd) = none := free_of_validateOutputPath hvalid
  cases err with
  | some err => exact absurd hend throw_ne_ok
  | none =>
    obtain ⟨rfl, rfl⟩ := pure_ok_iff.1 hend
    exact ⟨hnew, rfl, bytes, hbytes, hcontents⟩

/-- A failed export has written nothing, or some of what it was to write. -/
theorem export_error {err : Text}
    (h : store.exportOn t format faults cwd path filter disk = .error err disk') :
    disk'.contents (path.place cwd) = disk.contents (path.place cwd) ∨
      disk.nodes (path.place cwd) = none ∧ ∃ bytes late k,
        format (store.exportedRows t filter) = .ok (bytes, late) ∧
          disk'.contents (path.place cwd) = some (bytes.take k) := by
  unfold AuditStore.exportOn at h
  have hvalidate := @keeps_validateOutputPath cwd (path.place cwd) path faults.dirs disk
  rcases bind_error_iff.1 h with hinvalid | ⟨_, valid, hvalid, hrows⟩
  · rw [hinvalid] at hvalidate
    exact .inl hvalidate
  rw [hvalid] at hvalidate
  have hnew : disk.nodes (path.place cwd) = none := free_of_validateOutputPath hvalid
  rcases bind_error_iff.1 hrows with hformat | ⟨⟨bytes, late⟩, made, hformat, hwrite⟩
  · obtain ⟨-, rfl⟩ := ofExcept_error_iff.1 hformat
    exact .inl hvalidate
  obtain ⟨hbytes, rfl⟩ := ofExcept_ok_iff.1 hformat
  rcases bind_error_iff.1 hwrite with hfails | ⟨_, written, hwritten, hend⟩
  · rcases writeExport_error hfails with hsame | ⟨-, k, hcontents⟩
    · exact .inl (hsame.trans hvalidate)
    · exact .inr ⟨hnew, bytes, late, k, hbytes, hcontents⟩
  · -- all was written, and the crate reports an error then
    obtain ⟨-, hcontents⟩ := writeExport_ok hwritten
    cases late with
    | none => cases hend
    | some late =>
      cases hend
      refine .inr ⟨hnew, bytes, _, bytes.length, hbytes, ?_⟩
      rw [List.take_length]
      exact hcontents

/-- **What an export does.**  It goes through only if nothing is at its path.  The file there then holds
what the format makes of the rows, and the number of the rows is returned; as JSON lines, the file has that
many lines, and no other rows have the same file.  However it ends, no other file is changed, and none that
was there: an export that fails has written some of its bytes at most. -/
theorem export_exact (csv parquet : ForeignFormat) (kind : ExportFormat) :
    match store.exportOn t (exportBytes csv parquet kind) faults cwd path filter disk with
    | .ok n disk' =>
        disk.nodes (path.place cwd) = none ∧ n = (store.exportedRows t filter).length ∧
          (∃ bytes, exportBytes csv parquet kind (store.exportedRows t filter) = .ok (bytes, none) ∧
            disk'.contents (path.place cwd) = some bytes) ∧
          (∀ q ≠ path.place cwd, disk'.contents q = disk.contents q) ∧
          (kind = .jsonl → ∃ text, disk'.contents (path.place cwd) = some (utf8 text) ∧
            (lines text).length = n ∧ ∀ rows', text = jsonlText rows' →
              rows'.map AuditRow.withoutPayload =
                (store.exportedRows t filter).map AuditRow.withoutPayload)
    | .error _ disk' =>
        (∀ q, (q = path.place cwd → disk.nodes q ≠ none) → disk'.contents q = disk.contents q) ∧
          (disk'.contents (path.place cwd) = disk.contents (path.place cwd) ∨
            ∃ bytes late k,
              exportBytes csv parquet kind (store.exportedRows t filter) = .ok (bytes, late) ∧
                disk'.contents (path.place cwd) = some (bytes.take k)) := by
  have hframe (q : Place) := @export_frame store t (exportBytes csv parquet kind) faults cwd q path
    filter disk
  cases hend : store.exportOn t (exportBytes csv parquet kind) faults cwd path filter disk with
  | ok n disk' =>
    rw [hend] at hframe
    obtain ⟨hnew, hn, bytes, hbytes, hcontents⟩ := export_ok hend
    refine ⟨hnew, hn, ⟨bytes, hbytes, hcontents⟩, fun q hq => hframe q fun h => absurd h hq, ?_⟩
    rintro rfl
    cases hbytes
    refine ⟨_, hcontents, ?_, fun rows' h => jsonlText_inj h.symm⟩
    rw [jsonl_lines, List.length_map, hn]
  | error err disk' =>
    rw [hend] at hframe
    refine ⟨hframe, (export_error hend).imp_right ?_⟩
    rintro ⟨-, hwritten⟩
    exact hwritten

end Export

end OoBot
