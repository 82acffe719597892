import Mathlib.Algebra.Group.Nat.Defs
import Mathlib.Order.Basic
import Mathlib.Order.Lattice
import OoBot.Lib.HashChain
import OoBot.Lib.Sha256
import OoBot.Text

/-!
# Recording in `src/audit/mod.rs`

The table `audit_events`, its rows, and `record_event`, which appends one.

* The digests (the crates `sha2`, `hmac` and `hex`) are the parameter `AuditCrypto`.
* The clock is passed in as the text that `now_utc_string` returns, or its error.
* SQLite hands out row identifiers: one for an empty table, and the last one plus one for any other
  (identifiers beyond the range of `i64` are not modelled).  Errors of SQLite are not modelled here.
* `serde_json` is built without `preserve_order`, so an object lists its fields by key.
-/

namespace OoBot

/-! ### JSON -/

/-- The JSON values that occur in a payload. -/
inductive JsonValue
  | null
  | bool (b : Bool)
  | number (n : ℕ)
  | string (s : Text)

/-- The backslash. -/
def backslash : Char := Char.ofNat 92

/-- The quotation mark. -/
def quote : Char := Char.ofNat 34

/-- A lowercase hexadecimal digit. -/
def hexDigit (n : ℕ) : Char := if n < 10 then Char.ofNat (48 + n) else Char.ofNat (87 + n)

/-- How a character is written inside a JSON string. -/
def escapeChar (c : Char) : Text :=
  if c = quote ∨ c = backslash then [backslash, c]
  else if c.toNat = 8 then [backslash, 'b']
  else if c.toNat = 9 then [backslash, 't']
  else if c.toNat = 10 then [backslash, 'n']
  else if c.toNat = 12 then [backslash, 'f']
  else if c.toNat = 13 then [backslash, 'r']
  else if c.toNat < 32 then
    [backslash, 'u', '0', '0', hexDigit (c.toNat / 16), hexDigit (c.toNat % 16)]
  else [c]

/-- A JSON string. -/
def jsonString (s : Text) : Text := quote :: s.flatMap escapeChar ++ [quote]

/-- `serde_json::to_string` on a value. -/
def JsonValue.text : JsonValue → Text
  | .null => "null".toList
  | .bool b => if b then "true".toList else "false".toList
  | .number n => natText n
  | .string s => jsonString s

/-- `BTreeMap::insert`. -/
def btreeInsert {α : Type} (key : Text) (value : α) : List (Text × α) → List (Text × α)
  | [] => [(key, value)]
  | (k, v) :: rest =>
      if key = k then (key, value) :: rest
      else if key < k then (key, value) :: (k, v) :: rest
      else (k, v) :: btreeInsert key value rest

/-- `serde_json::to_string` on an object. -/
def jsonObject (fields : List (Text × JsonValue)) : Text :=
  let map := fields.foldl (fun map field => btreeInsert field.1 field.2 map) []
  ['{'] ++ [','].intercalate (map.map fun field => jsonString field.1 ++ [':'] ++ field.2.text) ++
    ['}']

/-- `serde_json::to_string` on a list of strings. -/
def jsonStrings (l : List Text) : Text := ['['] ++ [','].intercalate (l.map jsonString) ++ [']']

/-! ### Events -/

/-- `AuditEventType`. -/
inductive AuditEventType
  | processStart
  | processShutdown
  | configLoaded
  | configSignatureVerified
  | configSignatureFailed
  | detectorMatch
  | specialPhraseMatch
  | responseCompiled
  | actionSent
  | actionSuppressed
  | breakerOpen
  | breakerClose
  | modeChanged
  | suspiciousInputDetected
  | duplicateSuppressed
  | cooldownSuppressed
  | rateLimitSuppressed
  | sandboxFault
  | auditIntegrityWarning
  | auditIntegrityDegraded
  | exportStarted
  | exportFinished
  deriving DecidableEq, Repr

/-- `AuditEventType::as_str`. -/
def AuditEventType.asStr : AuditEventType → Text
  | .processStart => "process_start".toList
  | .processShutdown => "process_shutdown".toList
  | .configLoaded => "config_loaded".toList
  | .configSignatureVerified => "config_signature_verified".toList
  | .configSignatureFailed => "config_signature_failed".toList
  | .detectorMatch => "detector_match".toList
  | .specialPhraseMatch => "special_phrase_match".toList
  | .responseCompiled => "response_compiled".toList
  | .actionSent => "action_sent".toList
  | .actionSuppressed => "action_suppressed".toList
  | .breakerOpen => "breaker_open".toList
  | .breakerClose => "breaker_close".toList
  | .modeChanged => "mode_changed".toList
  | .suspiciousInputDetected => "suspicious_input_detected".toList
  | .duplicateSuppressed => "duplicate_suppressed".toList
  | .cooldownSuppressed => "cooldown_suppressed".toList
  | .rateLimitSuppressed => "rate_limit_suppressed".toList
  | .sandboxFault => "sandbox_fault".toList
  | .auditIntegrityWarning => "audit_integrity_warning".toList
  | .auditIntegrityDegraded => "audit_integrity_degraded".toList
  | .exportStarted => "export_started".toList
  | .exportFinished => "export_finished".toList

/-- `AuditEventInput`, with its `Default` values. -/
structure AuditEventInput where
  eventType : AuditEventType := .detectorMatch
  binaryVersion : Text := "0.1.0".toList
  configFingerprint : Text := "unknown".toList
  detectorBackend : Text := "unknown".toList
  matchedReadings : List Text := []
  sequenceHits : UInt64 := 0
  kanjiHits : UInt64 := 0
  totalCount : UInt64 := 0
  specialPhraseHit : Bool := false
  selectedAction : Text := "noop".toList
  suppressedReason : Option Text := none
  mode : Text := "normal".toList
  activeLsm : Text := "unknown".toList
  hardeningStatus : Text := "unknown".toList
  processingTimeMs : UInt64 := 0
  messageLength : UInt64 := 0
  normalizedLength : UInt64 := 0
  tokenCount : UInt64 := 0
  suspiciousFlags : List Text := []
  truncatedFlag : Bool := false
  guildId : Option UInt64 := none
  channelId : Option UInt64 := none
  userId : Option UInt64 := none
  messageId : Option UInt64 := none

/-- The columns of `audit_events` besides `event_id`. -/
structure AuditColumns where
  tsUtc : Text
  eventType : Text
  schemaVersion : ℤ
  binaryVersion : Text
  configFingerprint : Text
  detectorBackend : Text
  matchedReadingsJson : Text
  sequenceHits : ℤ
  kanjiHits : ℤ
  totalCount : ℤ
  specialPhraseHit : ℤ
  selectedAction : Text
  suppressedReason : Text
  mode : Text
  activeLsm : Text
  hardeningStatus : Text
  processingTimeMs : ℤ
  messageLength : ℤ
  normalizedLength : ℤ
  tokenCount : ℤ
  suspiciousFlagsJson : Text
  truncatedFlag : ℤ
  pseudoGuildId : Text
  pseudoChannelId : Text
  pseudoUserId : Text
  pseudoMessageId : Text
  prevHash : Text
  rowHash : Text
  normalizedPayloadJson : Text
  deriving DecidableEq

/-- A row of `audit_events`. -/
structure AuditRow where
  eventId : ℤ
  columns : AuditColumns
  deriving DecidableEq

/-- What the chain of hashes sees of a row. -/
def AuditRow.entry (row : AuditRow) : HashChain.Entry Text Text :=
  ⟨row.columns.prevHash, row.columns.normalizedPayloadJson, row.columns.rowHash⟩

/-! ### The table -/

/-- The table `audit_events`: its rows in the order of their primary key. -/
structure AuditTable where
  rows : List AuditRow
  sorted : rows.Pairwise fun a b => a.eventId < b.eventId

namespace AuditTable

/-- The table without rows. -/
def empty : AuditTable := ⟨[], List.Pairwise.nil⟩

/-- The entries of the chain. -/
def entries (t : AuditTable) : List (HashChain.Entry Text Text) := t.rows.map AuditRow.entry

/-- The identifier of the next row. -/
def nextId (t : AuditTable) : ℤ := (t.rows.getLast?.map fun row => row.eventId + 1).getD 1

theorem lt_nextId {t : AuditTable} {row : AuditRow} (h : row ∈ t.rows) :
    row.eventId < t.nextId := by
  obtain ⟨rows, sorted⟩ := t
  rcases List.eq_nil_or_concat' rows with rfl | ⟨rows, last, rfl⟩
  · cases h
  · have hnext : nextId ⟨rows ++ [last], sorted⟩ = last.eventId + 1 := by simp [nextId]
    rw [hnext]
    rcases List.mem_append.1 h with h | h
    · have := (List.pairwise_append.1 sorted).2.2 row h last (List.mem_singleton.2 rfl)
      omega
    · rw [List.mem_singleton.1 h]
      omega

/-- `INSERT`. -/
def insert (t : AuditTable) (columns : AuditColumns) : AuditTable where
  rows := t.rows ++ [⟨t.nextId, columns⟩]
  sorted := by
    refine List.pairwise_append.2 ⟨t.sorted, List.pairwise_singleton _ _, ?_⟩
    intro row hrow last hlast
    rw [List.mem_singleton.1 hlast]
    exact lt_nextId hrow

/-- `GENESIS`. -/
def genesis : Text := "GENESIS".toList

/-- The hash of the last row, or `GENESIS`. -/
def lastRowHash (t : AuditTable) : Text :=
  (t.rows.getLast?.map fun row => row.columns.rowHash).getD genesis

theorem lastRowHash_eq_head (t : AuditTable) :
    t.lastRowHash = HashChain.head genesis t.entries := by
  rcases List.eq_nil_or_concat' t.rows with h | ⟨rows, last, h⟩
  · simp [lastRowHash, entries, h]
  · simp [lastRowHash, entries, h, HashChain.head_append, AuditRow.entry]

end AuditTable

/-- A row of `audit_manifests`. -/
structure AuditManifest where
  tsUtc : Text
  startEventId : ℤ
  endEventId : ℤ
  manifestHash : Text

/-- The tables that `record_event` writes to. -/
structure AuditDb where
  events : AuditTable
  manifests : List AuditManifest

/-- The database after `migrate`. -/
def AuditDb.empty : AuditDb := ⟨.empty, []⟩

/-! ### `record_event` -/

/-- The digests: `hex::encode` of SHA-256 and of HMAC-SHA-256, of which only the latter may fail, with
a text. -/
structure AuditCrypto where
  sha256Hex : List UInt8 → Text
  hmacHex : List UInt8 → List UInt8 → Except Text Text

/-- The digests of the crates, as far as SHA-256 determines them. -/
def AuditCrypto.sha2 : AuditCrypto where
  sha256Hex := Sha256.hexDigest
  hmacHex key m := .ok (Sha256.hex (Sha256.hmac key m))

/-- `AuditStoreMode`. -/
inductive AuditStoreMode
  | readOnly
  | readWrite
  deriving DecidableEq, Repr

/-- `AuditStore`, without its connection. -/
structure AuditStore where
  mode : AuditStoreMode
  pseudoIdHmacKey : Option (List UInt8)
  exportMaxRows : ℕ
  queryMaxRows : ℕ

/-- `SCHEMA_VERSION`. -/
def schemaVersion : ℕ := 1

/-- `MANIFEST_INTERVAL`. -/
def manifestInterval : ℤ := 1000

/-- `compute_row_hash`. -/
def computeRowHash (crypto : AuditCrypto) (prevHash normalizedPayloadJson : Text) : Text :=
  crypto.sha256Hex (utf8 prevHash ++ utf8 normalizedPayloadJson)

/-- `as i64`. -/
def asI64 (n : UInt64) : ℤ := n.toBitVec.toInt

theorem asI64_of_lt {n : UInt64} (h : n.toNat < 2 ^ 63) : asI64 n = n.toNat := by
  have hn : n.toBitVec.toNat = n.toNat := rfl
  rw [asI64, BitVec.toInt_eq_toNat_of_lt (by omega), hn]

/-- `i64::from`. -/
def boolI64 (b : Bool) : ℤ := if b then 1 else 0

namespace AuditStore

variable (crypto : AuditCrypto) (self : AuditStore)

/-- `ensure_writable`. -/
def ensureWritable : Except Text Unit :=
  if self.mode = .readOnly then .error "audit store is read-only".toList else .ok ()

/-- `pseudo_id`. -/
def pseudoId (rawId : Option UInt64) : Text :=
  match rawId, self.pseudoIdHmacKey with
  | none, _ => []
  | _, none => []
  | some rawId, some key =>
      match crypto.hmacHex key (utf8 (natText rawId.toNat)) with
      | .ok digest => digest
      | .error _ => []

/-- The payload of an event. -/
def payload (input : AuditEventInput) (tsUtc : Text) : Text :=
  jsonObject
    [("ts_utc".toList, .string tsUtc),
      ("event_type".toList, .string input.eventType.asStr),
      ("schema_version".toList, .number schemaVersion),
      ("binary_version".toList, .string input.binaryVersion),
      ("config_fingerprint".toList, .string input.configFingerprint),
      ("detector_backend".toList, .string input.detectorBackend),
      ("matched_readings_json".toList, .string (jsonStrings input.matchedReadings)),
      ("sequence_hits".toList, .number input.sequenceHits.toNat),
      ("kanji_hits".toList, .number input.kanjiHits.toNat),
      ("total_count".toList, .number input.totalCount.toNat),
      ("special_phrase_hit".toList, .bool input.specialPhraseHit),
      ("selected_action".toList, .string input.selectedAction),
      ("suppressed_reason".toList, (input.suppressedReason.map .string).getD .null),
      ("mode".toList, .string input.mode),
      ("active_lsm".toList, .string input.activeLsm),
      ("hardening_status".toList, .string input.hardeningStatus),
      ("processing_time_ms".toList, .number input.processingTimeMs.toNat),
      ("message_length".toList, .number input.messageLength.toNat),
      ("normalized_length".toList, .number input.normalizedLength.toNat),
      ("token_count".toList, .number input.tokenCount.toNat),
      ("suspicious_flags_json".toList, .string (jsonStrings input.suspiciousFlags)),
      ("truncated_flag".toList, .bool input.truncatedFlag),
      ("pseudo_guild_id".toList, .string (self.pseudoId crypto input.guildId)),
      ("pseudo_channel_id".toList, .string (self.pseudoId crypto input.channelId)),
      ("pseudo_user_id".toList, .string (self.pseudoId crypto input.userId)),
      ("pseudo_message_id".toList, .string (self.pseudoId crypto input.messageId))]

/-- The columns that `record_event` inserts. -/
def columns (prevHash : Text) (input : AuditEventInput) (tsUtc : Text) : AuditColumns where
  tsUtc := tsUtc
  eventType := input.eventType.asStr
  schemaVersion := schemaVersion
  binaryVersion := input.binaryVersion
  configFingerprint := input.configFingerprint
  detectorBackend := input.detectorBackend
  matchedReadingsJson := jsonStrings input.matchedReadings
  sequenceHits := asI64 input.sequenceHits
  kanjiHits := asI64 input.kanjiHits
  totalCount := asI64 input.totalCount
  specialPhraseHit := boolI64 input.specialPhraseHit
  selectedAction := input.selectedAction
  suppressedReason := input.suppressedReason.getD []
  mode := input.mode
  activeLsm := input.activeLsm
  hardeningStatus := input.hardeningStatus
  processingTimeMs := asI64 input.processingTimeMs
  messageLength := asI64 input.messageLength
  normalizedLength := asI64 input.normalizedLength
  tokenCount := asI64 input.tokenCount
  suspiciousFlagsJson := jsonStrings input.suspiciousFlags
  truncatedFlag := boolI64 input.truncatedFlag
  pseudoGuildId := self.pseudoId crypto input.guildId
  pseudoChannelId := self.pseudoId crypto input.channelId
  pseudoUserId := self.pseudoId crypto input.userId
  pseudoMessageId := self.pseudoId crypto input.messageId
  prevHash := prevHash
  rowHash := computeRowHash crypto prevHash (self.payload crypto input tsUtc)
  normalizedPayloadJson := self.payload crypto input tsUtc

/-- A recorded row carries its own digest. -/
theorem columns_rowHash (prevHash : Text) (input : AuditEventInput) (tsUtc : Text) :
    computeRowHash crypto (self.columns crypto prevHash input tsUtc).prevHash
      (self.columns crypto prevHash input tsUtc).normalizedPayloadJson =
      (self.columns crypto prevHash input tsUtc).rowHash := rfl

/-- `maybe_create_manifest`. -/
def maybeCreateManifest (db : AuditDb) (lastEventId : ℤ) (clock : Except Text Text) :
    Except Text AuditDb := do
  if lastEventId % manifestInterval ≠ 0 then pure db
  else
    let fromEvent := lastEventId - manifestInterval + 1
    let rows := db.events.rows.filter fun row => fromEvent ≤ row.eventId ∧ row.eventId ≤ lastEventId
    let concatenated := rows.flatMap fun row => row.columns.rowHash
    let tsUtc ← clock
    pure { db with manifests := db.manifests ++
      [⟨tsUtc, fromEvent, lastEventId, crypto.sha256Hex (utf8 concatenated)⟩] }

/-- `record_event`, with the two readings of the clock. -/
def recordEvent (db : AuditDb) (input : AuditEventInput) (clock manifestClock : Except Text Text) :
    Except Text (ℤ × AuditDb) := do
  self.ensureWritable
  let prevHash := db.events.lastRowHash
  let tsUtc ← clock
  let eventId := db.events.nextId
  let db := { db with events := db.events.insert (self.columns crypto prevHash input tsUtc) }
  let db ← maybeCreateManifest crypto db eventId manifestClock
  pure (eventId, db)

end AuditStore

end OoBot
