import OoBot.Audit.History
import OoBot.Lib.Fallible
import OoBot.Lib.Json

/-!
# What a payload says

The payload of a row is the JSON text of an object, in which every column occurs.  Such a text stands for
one object (`jsonObject_inj`), so the payload determines the columns and the event itself, but for the
identifiers that only occur as digests (`payload_inj`).

The chain of hashes commits to the payloads.  For logs that were recorded it therefore commits to all
columns of all rows, and to the events (`head_commits_events`).
-/

namespace OoBot

open Delimited

/-! ### Escaped characters -/

/-- The number of a hexadecimal digit. -/
def hexDigitValue (c : Char) : ℕ := if c.toNat < 58 then c.toNat - 48 else c.toNat - 87

/-- Read an escaped character. -/
def readEscape : Text → Option (Char × Text)
  | [] => none
  | c :: rest =>
      if c ≠ backslash then some (c, rest)
      else
        match rest with
        | 'b' :: rest => some (Char.ofNat 8, rest)
        | 't' :: rest => some (Char.ofNat 9, rest)
        | 'n' :: rest => some (Char.ofNat 10, rest)
        | 'f' :: rest => some (Char.ofNat 12, rest)
        | 'r' :: rest => some (Char.ofNat 13, rest)
        | 'u' :: _ :: _ :: high :: low :: rest =>
            some (Char.ofNat (16 * hexDigitValue high + hexDigitValue low), rest)
        | c :: rest => some (c, rest)
        | [] => none

theorem hexDigitValue_hexDigit : ∀ n < 16, hexDigitValue (hexDigit n) = n := by decide

theorem readEscape_escapeChar (c : Char) (r : Text) : readEscape (escapeChar c ++ r) = some (c, r) := by
  have hcode {n : ℕ} (h : c.toNat = n) : c = Char.ofNat n := by rw [← h, Char.ofNat_toNat]
  unfold escapeChar
  split_ifs with hmark hb ht hn hf hr hcontrol
  · rcases hmark with rfl | rfl <;> rfl
  · rw [hcode hb]
    rfl
  · rw [hcode ht]
    rfl
  · rw [hcode hn]
    rfl
  · rw [hcode hf]
    rfl
  · rw [hcode hr]
    rfl
  · have hdigits : 16 * hexDigitValue (hexDigit (c.toNat / 16)) +
        hexDigitValue (hexDigit (c.toNat % 16)) = c.toNat := by
      rw [hexDigitValue_hexDigit _ (by omega), hexDigitValue_hexDigit _ (by omega)]
      omega
    show some (Char.ofNat (16 * hexDigitValue (hexDigit (c.toNat / 16)) +
      hexDigitValue (hexDigit (c.toNat % 16))), r) = _
    rw [hdigits, Char.ofNat_toNat]
  · have hc : c ≠ backslash := fun h => hmark (Or.inr h)
    show (if c ≠ backslash then some (c, r) else _) = _
    rw [if_pos hc]

theorem escapeChar_head (c : Char) : ∃ x xs, escapeChar c = x :: xs ∧ x ≠ Json.quotationMark := by
  unfold escapeChar
  split_ifs with hmark
  all_goals try exact ⟨backslash, _, rfl, by decide⟩
  exact ⟨c, [], rfl, fun h => hmark (Or.inl h)⟩

/-- The escapes of `serde_json`. -/
def serdeEscape : Json.Escape where
  code := escapeChar
  delimits := Delimits.of_read fun c r _ => readEscape_escapeChar c r
  head := escapeChar_head

/-- The characters of a list of which this can be checked are no control characters. -/
theorem le_of_mem_all {l : Text} (hl : l.all fun c => decide (32 ≤ c.toNat)) {c : Char} (hc : c ∈ l) :
    32 ≤ c.toNat := of_decide_eq_true (List.all_eq_true.1 hl c hc)

/-- An escaped character is no control character. -/
theorem le_of_mem_escapeChar {c x : Char} (h : x ∈ escapeChar c) : 32 ≤ x.toNat := by
  have hdigit : ∀ n < 16, 32 ≤ (hexDigit n).toNat := by decide
  unfold escapeChar at h
  split_ifs at h with hmark
  · rcases hmark with rfl | rfl
    · exact le_of_mem_all rfl h
    · exact le_of_mem_all rfl h
  iterate 5
    · exact le_of_mem_all rfl h
  · simp only [List.mem_cons, List.not_mem_nil, or_false] at h
    rcases h with rfl | rfl | rfl | rfl | rfl | rfl
    iterate 4
      · decide
    · exact hdigit _ (by omega)
    · exact hdigit _ (by omega)
  · rw [List.mem_singleton.1 h]
    omega

/-- The JSON texts of `serde_json` hold no control characters. -/
theorem le_of_mem_json {v : Json.Value} {c : Char} (h : c ∈ Json.text serdeEscape v) :
    32 ≤ c.toNat := by
  cases Json.written_of_mem_text v c h with
  | mark h => exact le_of_mem_all rfl h
  | digit h =>
    simp only [Char.isDigit, Bool.and_eq_true, decide_eq_true_eq, UInt32.le_iff_toNat_le] at h
    exact le_trans (by decide) h.1
  | quotation h =>
    rw [h]
    decide
  | escaped d h => exact le_of_mem_escapeChar h

theorem newline_not_mem_json (v : Json.Value) : '\n' ∉ Json.text serdeEscape v := fun h =>
  absurd (le_of_mem_json h) (by decide)

/-! ### Texts -/

theorem natText_eq_integer (n : ℕ) : natText n = Json.integer n := by
  unfold Json.integer
  rw [if_neg (by omega)]
  rfl

/-- The value that a `JsonValue` is. -/
def JsonValue.json : JsonValue → Json.Value
  | .null => .null
  | .bool b => .bool b
  | .number n => .number n
  | .string s => .string s

theorem JsonValue.text_eq (value : JsonValue) : value.text = Json.text serdeEscape value.json := by
  cases value with
  | null => rfl
  | bool b => rfl
  | number n => exact natText_eq_integer n
  | string s => rfl

theorem JsonValue.json_injective : Function.Injective JsonValue.json := by
  intro v w h
  cases v <;> cases w <;> cases h <;> rfl

theorem jsonStrings_injective : Function.Injective jsonStrings := by
  have htext (l : List Text) : jsonStrings l = Json.text serdeEscape (.array (l.map .string)) := by
    rw [Json.text_array, List.map_map]
    rfl
  intro l l' h
  rw [htext, htext] at h
  have hitems := Json.Value.array.inj (Json.text_injective h)
  exact List.map_injective_iff.2 (fun _ _ => Json.Value.string.inj) hitems

/-! ### Objects -/

/-- The fields of an object, by key. -/
def btree {α : Type} (fields : List (Text × α)) : List (Text × α) :=
  fields.foldl (fun map field => btreeInsert field.1 field.2 map) []

theorem mem_btreeInsert {α : Type} {key : Text} {value : α} {map : List (Text × α)}
    (h : key ∉ map.map Prod.fst) {field : Text × α} :
    field ∈ btreeInsert key value map ↔ field = (key, value) ∨ field ∈ map := by
  induction map with
  | nil => simp [btreeInsert]
  | cons first rest ih =>
    obtain ⟨k, v⟩ := first
    rw [List.map_cons, List.mem_cons, not_or] at h
    unfold btreeInsert
    split_ifs with heq hlt
    · exact absurd heq h.1
    · exact List.mem_cons
    · rw [List.mem_cons, ih h.2, List.mem_cons]
      tauto

/-- With distinct keys no field is overwritten. -/
theorem mem_btree {α : Type} {fields : List (Text × α)} (h : (fields.map Prod.fst).Nodup) :
    ∀ {field : Text × α}, field ∈ btree fields ↔ field ∈ fields := by
  unfold btree
  induction fields using List.reverseRecOn with
  | nil => exact Iff.rfl
  | append_singleton fields last ih =>
    intro field
    rw [List.map_append, List.map_singleton] at h
    obtain ⟨hfields, -, hlast⟩ := List.nodup_append.1 h
    have hnew : last.1 ∉ (fields.foldl (fun map field => btreeInsert field.1 field.2 map) []).map
        Prod.fst := by
      intro hmem
      obtain ⟨field, hfield, hkey⟩ := List.mem_map.1 hmem
      exact hlast _ (List.mem_map_of_mem ((ih hfields).1 hfield)) _ (List.mem_singleton_self _) hkey
    rw [List.foldl_append, List.foldl_cons, List.foldl_nil, mem_btreeInsert hnew, ih hfields,
      List.mem_append, List.mem_singleton, or_comm]

theorem jsonObject_eq (fields : List (Text × JsonValue)) : jsonObject fields =
    Json.text serdeEscape (.object ((btree fields).map fun field => (field.1, field.2.json))) := by
  rw [Json.text_object, List.map_map]
  have hentries : (btree fields).map (fun field => jsonString field.1 ++ [':'] ++ field.2.text) =
      (btree fields).map ((fun field => Json.quoted serdeEscape field.1 ++ [':'] ++
        Json.text serdeEscape field.2) ∘ fun field => (field.1, field.2.json)) := by
    refine List.map_congr_left fun field _ => ?_
    rw [JsonValue.text_eq]
    rfl
  rw [← hentries]
  rfl

/-- Lists with the same distinct keys and the same fields are the same. -/
theorem eq_of_mem_iff {α : Type} {fields fields' : List (Text × α)}
    (hkeys : fields.map Prod.fst = fields'.map Prod.fst) (hnodup : (fields.map Prod.fst).Nodup)
    (h : ∀ field, field ∈ fields ↔ field ∈ fields') : fields = fields' := by
  induction fields generalizing fields' with
  | nil => exact (List.map_eq_nil_iff.1 hkeys.symm).symm
  | cons first rest ih =>
    cases fields' with
    | nil => cases hkeys
    | cons first' rest' =>
      rw [List.map_cons, List.map_cons, List.cons.injEq] at hkeys
      obtain ⟨hkey, hrest⟩ := hkeys
      obtain ⟨hnew, hnodup⟩ := List.nodup_cons.1 hnodup
      have hnew' : first'.1 ∉ rest'.map Prod.fst := by
        rw [← hkey, ← hrest]
        exact hnew
      -- the first fields have the same key, which no other field has
      obtain rfl : first = first' := by
        rcases List.mem_cons.1 ((h first).1 List.mem_cons_self) with heq | hmem
        · exact heq
        · exact absurd (hkey ▸ List.mem_map_of_mem hmem) hnew'
      refine congrArg (first :: ·) (ih hrest hnodup fun field => ?_)
      constructor
      · intro hmem
        refine (List.mem_cons.1 ((h field).1 (List.mem_cons_of_mem _ hmem))).resolve_left ?_
        rintro rfl
        exact hnew (List.mem_map_of_mem hmem)
      · intro hmem
        refine (List.mem_cons.1 ((h field).2 (List.mem_cons_of_mem _ hmem))).resolve_left ?_
        rintro rfl
        exact hnew' (List.mem_map_of_mem hmem)

/-- An object with distinct keys determines its fields. -/
theorem jsonObject_inj {fields fields' : List (Text × JsonValue)}
    (h : jsonObject fields = jsonObject fields')
    (hkeys : fields.map Prod.fst = fields'.map Prod.fst) (hnodup : (fields.map Prod.fst).Nodup) :
    fields = fields' := by
  rw [jsonObject_eq, jsonObject_eq] at h
  have hmap := Json.Value.object.inj (Json.text_injective h)
  have hpair : Function.Injective fun field : Text × JsonValue => (field.1, field.2.json) := by
    rintro ⟨key, value⟩ ⟨key', value'⟩ heq
    obtain ⟨hkey, hvalue⟩ := Prod.mk.inj heq
    exact Prod.ext hkey (JsonValue.json_injective hvalue)
  have hbtree : btree fields = btree fields' := List.map_injective_iff.2 hpair hmap
  have hnodup' : (fields'.map Prod.fst).Nodup := by
    rw [← hkeys]
    exact hnodup
  refine eq_of_mem_iff hkeys hnodup fun field => ?_
  rw [← mem_btree hnodup, hbtree, mem_btree hnodup']

/-! ### Events -/

/-- The events, in their order. -/
def AuditEventType.all : List AuditEventType :=
  [.processStart, .processShutdown, .configLoaded, .configSignatureVerified, .configSignatureFailed,
    .detectorMatch, .specialPhraseMatch, .responseCompiled, .actionSent, .actionSuppressed,
    .breakerOpen, .breakerClose, .modeChanged, .suspiciousInputDetected, .duplicateSuppressed,
    .cooldownSuppressed, .rateLimitSuppressed, .sandboxFault, .auditIntegrityWarning,
    .auditIntegrityDegraded, .exportStarted, .exportFinished]

/-- Every event has a name of its own. -/
theorem AuditEventType.asStr_injective : Function.Injective AuditEventType.asStr := by
  have hfind (eventType : AuditEventType) :
      all.find? (fun other => other.asStr = eventType.asStr) = some eventType := by
    cases eventType <;> rfl
  intro eventType other h
  refine Option.some.inj ((hfind eventType).symm.trans ?_)
  rw [h]
  exact hfind other

/-- What a payload says of an event: all of it, but for the identifiers that occur as digests. -/
def AuditEventInput.recorded (input : AuditEventInput) : AuditEventInput :=
  { input with guildId := none, channelId := none, userId := none, messageId := none }

/-- The keys of a payload. -/
def payloadKeys : List Text :=
  ["ts_utc".toList, "event_type".toList, "schema_version".toList, "binary_version".toList,
    "config_fingerprint".toList, "detector_backend".toList, "matched_readings_json".toList,
    "sequence_hits".toList, "kanji_hits".toList, "total_count".toList, "special_phrase_hit".toList,
    "selected_action".toList, "suppressed_reason".toList, "mode".toList, "active_lsm".toList,
    "hardening_status".toList, "processing_time_ms".toList, "message_length".toList,
    "normalized_length".toList, "token_count".toList, "suspicious_flags_json".toList,
    "truncated_flag".toList, "pseudo_guild_id".toList, "pseudo_channel_id".toList,
    "pseudo_user_id".toList, "pseudo_message_id".toList]

theorem nodup_payloadKeys : payloadKeys.Nodup := by decide +kernel

section Payload

variable {crypto : AuditCrypto} {store store' : AuditStore} {input input' : AuditEventInput}
  {tsUtc tsUtc' : Text}

/-- The reason and its absence are different values. -/
theorem reason_inj {reason reason' : Option Text}
    (h : (reason.map JsonValue.string).getD .null = (reason'.map JsonValue.string).getD .null) :
    reason = reason' := by
  cases reason <;> cases reason' <;> cases h <;> rfl

/-- Events with the same payload, at any time and in any stores, are the same but for the identifiers,
and they fill the same columns. -/
theorem payload_inj (h : store.payload crypto input tsUtc = store'.payload crypto input' tsUtc') :
    tsUtc = tsUtc' ∧ input.recorded = input'.recorded ∧ ∀ prevHash,
      store.columns crypto prevHash input tsUtc = store'.columns crypto prevHash input' tsUtc' := by
  have hpayload := h
  unfold AuditStore.payload at h
  have hfields := jsonObject_inj h rfl nodup_payloadKeys
  simp only [List.cons.injEq, Prod.mk.injEq, JsonValue.string.injEq, JsonValue.number.injEq,
    JsonValue.bool.injEq, UInt64.toNat_inj, true_and, and_true] at hfields
  obtain ⟨rfl, hevent, hversion, hfingerprint, hbackend, hreadings, hsequence, hkanji, htotal, hphrase,
    haction, hreason, hmode, hlsm, hhardening, htime, hlength, hnormalized, htokens, hflags,
    htruncated, hguild, hchannel, huser, hmessage⟩ := hfields
  refine ⟨rfl, ?_, fun prevHash => ?_⟩
  · simp only [AuditEventInput.recorded, AuditEventInput.mk.injEq, and_true]
    exact ⟨AuditEventType.asStr_injective hevent, hversion, hfingerprint, hbackend,
      jsonStrings_injective hreadings, hsequence, hkanji, htotal, hphrase, haction, reason_inj hreason,
      hmode, hlsm, hhardening, htime, hlength, hnormalized, htokens, jsonStrings_injective hflags,
      htruncated⟩
  · unfold AuditStore.columns
    rw [hpayload, hevent, hversion, hfingerprint, hbackend, hreadings, hsequence, hkanji, htotal,
      hphrase, haction, reason_inj hreason, hmode, hlsm, hhardening, htime, hlength, hnormalized,
      htokens, hflags, htruncated, hguild, hchannel, huser, hmessage]

end Payload

/-! ### Histories -/

/-- A row that a call has left, at the time of its clock. -/
def RecordCall.Left (crypto : AuditCrypto) (store : AuditStore) (call : RecordCall) (row : AuditRow) :
    Prop :=
  ∃ tsUtc, call.clock = .ok tsUtc ∧
    row.columns = store.columns crypto row.columns.prevHash call.input tsUtc

/-- What a call says, without the identifiers: the event, and when it was. -/
def RecordCall.recorded (call : RecordCall) : AuditEventInput × Except Text Text :=
  (call.input.recorded, call.clock)

section Histories

variable {crypto : AuditCrypto} {store store' : AuditStore}

/-- Every call of a history leaves one row. -/
theorem rows_of_recordAll {db db' : AuditDb} {calls : List RecordCall}
    (h : store.recordAll crypto db calls = .ok db') :
    ∃ rows, db'.events.rows = db.events.rows ++ rows ∧
      List.Forall₂ (RecordCall.Left crypto store) calls rows := by
  induction calls generalizing db with
  | nil =>
    cases h
    exact ⟨[], (List.append_nil _).symm, .nil⟩
  | cons call calls ih =>
    rw [AuditStore.recordAll] at h
    obtain ⟨⟨id, db₁⟩, hstep, hrest⟩ := Fallible.except_bind_ok_iff.1 h
    obtain ⟨-, tsUtc, hclock, -, hevents⟩ := recordEvent_ok hstep
    obtain ⟨rows, hrows, hleft⟩ := ih hrest
    refine ⟨⟨db.events.nextId, store.columns crypto db.events.lastRowHash call.input tsUtc⟩ :: rows,
      ?_, .cons ⟨tsUtc, hclock, rfl⟩ hleft⟩
    rw [hrows, hevents]
    exact List.append_assoc _ _ _

/-- Rows with the same hashes and payloads were left by the same events, and are the same columns. -/
theorem columns_eq_of_entries {calls calls' : List RecordCall} {rows rows' : List AuditRow}
    (hleft : List.Forall₂ (RecordCall.Left crypto store) calls rows)
    (hleft' : List.Forall₂ (RecordCall.Left crypto store') calls' rows')
    (hentries : rows.map AuditRow.entry = rows'.map AuditRow.entry) :
    rows.map AuditRow.columns = rows'.map AuditRow.columns ∧
      calls.map RecordCall.recorded = calls'.map RecordCall.recorded := by
  induction hleft generalizing calls' rows' with
  | nil =>
    obtain rfl := List.map_eq_nil_iff.1 hentries.symm
    cases hleft'
    exact ⟨rfl, rfl⟩
  | @cons call row calls rows hcall hcalls ih =>
    cases hleft' with
    | nil => cases hentries
    | @cons call' row' calls' rows' hcall' hcalls' =>
      rw [List.map_cons, List.map_cons, List.cons.injEq] at hentries
      obtain ⟨hentry, hrest⟩ := hentries
      obtain ⟨tsUtc, hclock, hcolumns⟩ := hcall
      obtain ⟨tsUtc', hclock', hcolumns'⟩ := hcall'
      obtain ⟨hprev, hpayload, -⟩ := HashChain.Entry.mk.inj hentry
      rw [hcolumns, hcolumns'] at hpayload
      obtain ⟨rfl, hinput, hsame⟩ := payload_inj hpayload
      obtain ⟨hcolumnss, hcallss⟩ := ih hcalls' hrest
      rw [List.map_cons, List.map_cons, List.map_cons, List.map_cons, hcolumnss, hcallss]
      refine ⟨congrArg (· :: _) ?_, congrArg (· :: _) ?_⟩
      · rw [hcolumns, hcolumns', hprev]
        exact hsame _
      · unfold RecordCall.recorded
        rw [hinput, hclock, hclock']

/-- **The head hash commits to the events.**  Two histories of calls of `record_event`, by any stores,
whose last hashes are the same, consist of the same events at the same times, but for the identifiers,
and have left the same rows, with the same values in all columns. -/
theorem head_commits_events {calls calls' : List RecordCall} {db db' : AuditDb}
    (hgood : GoodDigest crypto (db.events.hashedBytes ++ db'.events.hashedBytes))
    (h : store.recordAll crypto .empty calls = .ok db)
    (h' : store'.recordAll crypto .empty calls' = .ok db')
    (hhead : db.events.lastRowHash = db'.events.lastRowHash) :
    db.events.rows = db'.events.rows ∧
      calls.map RecordCall.recorded = calls'.map RecordCall.recorded := by
  obtain ⟨hhonest, -⟩ := honest_of_recordAll honest_empty h
  obtain ⟨hhonest', -⟩ := honest_of_recordAll honest_empty h'
  have hentries := hhonest.intact.entries_eq hhonest'.intact hgood hhead
  obtain ⟨rows, hrows, hleft⟩ := rows_of_recordAll h
  obtain ⟨rows', hrows', hleft'⟩ := rows_of_recordAll h'
  obtain rfl : db.events.rows = rows := hrows
  obtain rfl : db'.events.rows = rows' := hrows'
  obtain ⟨hcolumns, hcalls⟩ := columns_eq_of_entries hleft hleft' hentries
  refine ⟨?_, hcalls⟩
  have hlength : db.events.rows.length = db'.events.rows.length := by
    simpa using congrArg List.length hcolumns
  have hids : db.events.rows.map AuditRow.eventId = db'.events.rows.map AuditRow.eventId := by
    rw [hhonest.numbered, hhonest'.numbered, hlength]
  have hrow : Function.Injective fun row : AuditRow => (row.eventId, row.columns) := by
    rintro ⟨id, columns⟩ ⟨id', columns'⟩ heq
    obtain ⟨hid, hcolumns⟩ := Prod.mk.inj heq
    rw [AuditRow.mk.injEq]
    exact ⟨hid, hcolumns⟩
  refine List.map_injective_iff.2 hrow ?_
  rw [← List.zip_map', ← List.zip_map', hids, hcolumns]

/-- The start and the end of the process, recorded without a key. -/
def startAndStop (guildId : Option UInt64) : List RecordCall :=
  [⟨{ eventType := .processStart, guildId := guildId }, .ok "2024-01-01T00:00:00Z".toList, .ok []⟩,
    ⟨{ eventType := .processShutdown, guildId := guildId }, .ok "2024-01-01T00:00:09Z".toList, .ok []⟩]

/-- Two histories of two calls, by different stores and with different identifiers. -/
theorem head_commits_events_startAndStop :
    stopTable.rows = stopTable.rows ∧
      (startAndStop none).map RecordCall.recorded = (startAndStop (some 7)).map RecordCall.recorded := by
  have hgood : GoodDigest .sha2 (stopTable.hashedBytes ++ stopTable.hashedBytes) := by
    refine goodDigest_pair hexDigest_startBytes_ne ?_
    have hstrings : stopTable.hashedBytes ++ stopTable.hashedBytes =
        [startBytes, stopBytes, startBytes, stopBytes] := rfl
    rw [hstrings]
    simp
  exact @head_commits_events .sha2 ⟨.readWrite, none, 100, 100⟩ ⟨.readWrite, none, 200, 50⟩
    (startAndStop none) (startAndStop (some 7)) ⟨stopTable, []⟩ ⟨stopTable, []⟩ hgood rfl rfl rfl

end Histories

end OoBot
