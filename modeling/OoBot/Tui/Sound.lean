import OoBot.Tui.Failures
import OoBot.Tui.ModeFilters

/-!
# What the terminal keeps

In every run of the terminal (`terminal_sound`):

* an editor is open only on its screen, and on the field that is selected there; a page that has fields
  has one selected; the buffer, the search and the rows of the audit screen are bounded; and the welcome
  screen does not come back;
* the configuration of the app is the one that was loaded last.  A save writes nothing but the file that
  the terminal was opened with, and what it loads again is valid; the result says whether there was one.

While no editor is open every part of a handler keeps this, and an editor is opened by the last of them
(`Brings`).
-/

namespace OoBot

open Fallible

/-! ### The screens -/

/-- The audit screen under a limit. -/
structure AuditState.Sound (limit : ℕ) (audit : AuditState) : Prop where
  rows : audit.rows.length ≤ min limit tuiAuditCap
  search : audit.search.length ≤ maxAuditSearchLen
  modeFilter : ∀ mode, audit.modeFilter = some mode → mode ∈ modeFilters

/-- The setup screen: its defaults, and that a page with fields has one selected. -/
structure SetupState.Sound {F : Type} [F64 F] (setup : SetupState F) : Prop where
  defaults : setup.defaults = canonicalStartupConfig F
  selection : setupFieldsForPage setup.page ≠ [] → ∃ field, selectedSetupField setup = some field

theorem length_tail_le (t : AuditTable) (queryMaxRows : ℕ) (filter : AuditQueryFilter) {limit : ℕ}
    (h : filter.limit = some limit) : (t.tail queryMaxRows filter).length ≤ limit := by
  unfold AuditTable.tail
  rw [h, List.length_take]
  exact (min_le_left _ _).trans (min_le_left _ _)

theorem sound_loadAuditState {F : Type} (catalog : UiCatalog) (reply : AuditDbReply)
    (startup : LoadedStartupConfig F) (auditLimit : ℕ) (language : UiLanguage) :
    (loadAuditState catalog reply startup auditLimit language).Sound auditLimit := by
  have hempty {status : Text} :
      (⟨[], status, [], .newestFirst, none⟩ : AuditState).Sound auditLimit :=
    ⟨Nat.zero_le _, Nat.zero_le _, nofun⟩
  unfold loadAuditState
  cases reply with
  | missing => exact hempty
  | openFailed err => exact hempty
  | opened table =>
    refine ⟨?_, Nat.zero_le _, nofun⟩
    cases table with
    | none => exact Nat.zero_le _
    | some t => exact (length_tail_le t _ _ rfl).trans (min_le_left _ _)

/-- The key `m` stays among the filters. -/
theorem mem_modeFilters_of_next {modeFilter : Option Text} {mode : Text}
    (h : nextModeFilter modeFilter = some mode) : mode ∈ modeFilters := by
  unfold nextModeFilter at h
  split at h
  · cases h
    decide
  · split_ifs at h
    all_goals
      cases h
      decide

namespace SetupState.Sound

variable {F : Type} [F64 F] {setup setup' : SetupState F}

theorem of_eq (h : setup.Sound) (hdefaults : setup'.defaults = setup.defaults)
    (hpage : setup'.page = setup.page) (hselected : setup'.selected = setup.selected) :
    setup'.Sound := by
  refine ⟨hdefaults.trans h.defaults, ?_⟩
  unfold selectedSetupField
  rw [hpage, hselected]
  exact h.selection

/-- On a new page the first field is selected. -/
theorem turn (h : setup.Sound) (page : SetupPage) :
    ({ setup with page := page, selected := 0 } : SetupState F).Sound := by
  refine ⟨h.defaults, fun hfields => ?_⟩
  obtain ⟨field, fields, hcons⟩ := List.exists_cons_of_ne_nil hfields
  refine ⟨field, ?_⟩
  unfold selectedSetupField
  rw [hcons]
  rfl

/-- On the preview there is nothing to select. -/
theorem preview (h : setup.Sound) : ({ setup with page := .preview } : SetupState F).Sound :=
  ⟨h.defaults, fun hfields => absurd rfl hfields⟩

/-- Another field of the page may be selected. -/
theorem select (h : setup.Sound) {selected : ℕ}
    (hlt : setupFieldsForPage setup.page ≠ [] → selected < (setupFieldsForPage setup.page).length) :
    ({ setup with selected := selected } : SetupState F).Sound :=
  ⟨h.defaults, fun hfields => ⟨_, List.getElem?_eq_getElem (hlt hfields)⟩⟩

theorem selected_lt (h : setup.Sound) (hfields : setupFieldsForPage setup.page ≠ []) :
    setup.selected < (setupFieldsForPage setup.page).length := by
  obtain ⟨field, hfield⟩ := h.selection hfields
  exact (List.getElem?_eq_some_iff.1 hfield).1

theorem up (h : setup.Sound) : ({ setup with selected := setup.selected - 1 } : SetupState F).Sound :=
  h.select fun hfields => (Nat.sub_le _ _).trans_lt (h.selected_lt hfields)

theorem down (h : setup.Sound) :
    (if setup.selected + 1 < (setupFieldsForPage setup.page).length then
      { setup with selected := setup.selected + 1 } else setup : SetupState F).Sound := by
  split_ifs with hlt
  · exact h.select fun _ => hlt
  · exact h

theorem restore (h : setup.Sound) (field : SetupField) : (restoreDefaultForField setup field).Sound :=
  h.of_eq rfl rfl rfl

theorem cycle (h : setup.Sound) (texts : SetupTexts) (field : SetupField) :
    (cycleFieldValue texts setup field).Sound := by
  unfold cycleFieldValue
  cases field <;> exact h.of_eq rfl rfl rfl

end SetupState.Sound

/-- A typed value changes the draft only. -/
theorem applyCustomFieldInput_draft {F : Type} {texts : SetupTexts} {setup setup' : SetupState F}
    {field : SetupField} {raw : Text} {language : UiLanguage}
    (h : applyCustomFieldInput texts setup field raw language = .ok setup') :
    setup' = { setup with draft := setup'.draft } := by
  unfold applyCustomFieldInput at h
  dsimp only at h
  split_ifs at h
  · cases h
    rfl
  · obtain ⟨draft, -, hpure⟩ := except_bind_ok_iff.1 h
    cases hpure
    rfl

namespace Tui

variable {F : Type}

/-! ### The app -/

section Saves

variable (env : TuiEnv F)

/-- What a key saves and loads again: the key `s` on the preview of the setup screen, if nothing
fails. -/
def savedBy (world : World) (s : Session F) (code : KeyCode) : Option (LoadedStartupConfig F) :=
  if code = .char 's' ∧ s.app.inputMode = .normal ∧ s.app.screen = .setup ∧
      s.app.setup.page = .preview then
    (saveDraft env world s.app.startup.configPath s.app.setup.draft).toOption
  else none

/-- What a pass saves. -/
def saved (l : Loop F) (pass : Pass) : Option (LoadedStartupConfig F) :=
  (handledKey env l pass).bind fun key => savedBy env pass.world key.before key.code

/-- What a run saves, in its order. -/
def saves (l : Loop F) (passes : List Pass) : List (LoadedStartupConfig F) :=
  Runs.trace (step env) (saved env) l passes

/-- A draft that is saved is loaded from the same path, and what is loaded is valid. -/
theorem of_saveDraft {env : TuiEnv F} {world : World} {path : Files.Path} {draft : StartupConfig F} {load : LoadedStartupConfig F}
    (h : saveDraft env world path draft = .ok load) :
    load.configPath = path ∧ validateConfig load.app = .ok () ∧ KeySet env.host load.app := by
  unfold saveDraft at h
  obtain ⟨_, -, h⟩ := except_bind_ok_iff.1 h
  obtain ⟨disk, -, h⟩ := except_bind_ok_iff.1 h
  have hload := mapError_ok_iff.1 h
  obtain ⟨_, _, -, -, -, -, -, -, heq⟩ := load_ok_iff.1 hload
  exact ⟨congrArg LoadedStartupConfig.configPath heq, valid_of_load hload⟩

end Saves

/-- What holds of the app, after the saves `loads`. -/
structure Sound [F64 F] (host : Host) (entry : OperatorTuiEntry) (params : OperatorTuiParams F)
    (loads : List (LoadedStartupConfig F)) (app : OperatorTuiApp F) : Prop where
  startup : app.startup = loads.getLast?.getD params.startup
  savedConfig : app.savedConfig = !loads.isEmpty
  loaded : ∀ load ∈ loads, load.configPath = params.startup.configPath ∧
    validateConfig load.app = .ok () ∧ KeySet host load.app
  landing : app.landingScreen = entry.screen
  limit : app.auditLimit = params.auditLimit
  setup : app.setup.Sound
  audit : app.audit.Sound params.auditLimit
  editing : ∀ field, app.inputMode = .setupEdit field →
    app.screen = .setup ∧ selectedSetupField app.setup = some field
  searching : app.inputMode = .auditSearch → app.screen = .audit
  buffer : utf8Len app.inputBuffer < maxInputBufferLen + 4

section Keys

variable [F64 F] {env : TuiEnv F} {world : World} {entry : OperatorTuiEntry}
  {params : OperatorTuiParams F} {loads : List (LoadedStartupConfig F)} {left : Prop}

/-- A session that is sound; once the welcome screen is left, it is shown no more. -/
structure Shown (env : TuiEnv F) (entry : OperatorTuiEntry) (params : OperatorTuiParams F)
    (loads : List (LoadedStartupConfig F)) (left : Prop) (s : Session F) : Prop where
  sound : Sound env.host entry params loads s.app
  welcome : left → s.app.screen ≠ .welcome

/-- A session in which no editor is open. -/
structure Calm (env : TuiEnv F) (entry : OperatorTuiEntry) (params : OperatorTuiParams F)
    (loads : List (LoadedStartupConfig F)) (left : Prop) (s : Session F) : Prop
    extends Shown env entry params loads left s where
  normal : s.app.inputMode = .normal

/-- What leaves a calm session so. -/
abbrev Keeping (env : TuiEnv F) (entry : OperatorTuiEntry) (params : OperatorTuiParams F)
    (loads : List (LoadedStartupConfig F)) (left : Prop) {α : Type} (m : SessionM F α) : Prop :=
  Leaves (Calm env entry params loads left) m

theorem Calm.reloaded {s : Session F} (h : Calm env entry params loads left s) (reply : AuditDbReply)
    (startup : LoadedStartupConfig F) : (loadAuditState env.texts.catalog reply startup s.app.auditLimit
      s.app.language).Sound params.auditLimit := by
  rw [h.sound.limit]
  exact sound_loadAuditState _ _ _ _ _

/-! ### Without an editor -/

theorem calm_say {key : String} {replacements : List (String × Text)} :
    Keeping env entry params loads left (say env key replacements) := fun _ h =>
  ⟨⟨{ h.sound with }, h.welcome⟩, h.normal⟩

theorem calm_reloadAudit : Keeping env entry params loads left (reloadAudit env world) := fun s h =>
  ⟨⟨{ h.sound with audit := h.reloaded world.audit s.app.startup }, h.welcome⟩, h.normal⟩

theorem calm_refreshControlState :
    Keeping env entry params loads left (refreshControlState env world) := fun _ h =>
  ⟨⟨{ h.sound with }, h.welcome⟩, h.normal⟩

/-- Only the setup screen changes. -/
theorem calm_updateSetup {f : SetupState F → SetupState F}
    (hf : ∀ setup : SetupState F, setup.Sound → (f setup).Sound) :
    Keeping env entry params loads left (updateSetup f) := by
  intro s h
  refine ⟨⟨{ h.sound with setup := hf _ h.sound.setup, editing := ?_ }, h.welcome⟩, h.normal⟩
  intro field hmode
  cases h.normal.symm.trans hmode

/-- Another screen is shown. -/
theorem calm_showScreen {screen : Screen} (hscreen : screen ≠ .welcome) :
    Keeping env entry params loads left (update fun app => { app with screen := screen }) := by
  intro s h
  refine ⟨⟨{ h.sound with editing := ?_, searching := ?_ }, fun _ => hscreen⟩, h.normal⟩
  · intro field hmode
    cases h.normal.symm.trans hmode
  · intro hmode
    cases h.normal.symm.trans hmode

theorem calm_chooseLanguage {language : UiLanguage} :
    Keeping env entry params loads left (chooseLanguage env world language) :=
  Leaves.bind (fun _ h => ⟨⟨{ h.sound with }, h.welcome⟩, h.normal⟩) fun _ =>
    Leaves.bind (Leaves.bind calm_refreshControlState fun _ => calm_reloadAudit) fun _ _ h =>
      ⟨⟨{ h.sound with }, h.welcome⟩, h.normal⟩

theorem calm_toggleLanguage : Keeping env entry params loads left (toggleLanguage env world) := by
  refine Leaves.bind Leaves.get fun s => ?_
  cases s.app.language <;> exact calm_chooseLanguage

/-- The welcome screen goes on to the screen of the entry. -/
theorem calm_land : Keeping env entry params loads left (update fun app =>
    { app with
      screen := app.landingScreen
      status := defaultStatusMessage env.texts.catalog app.startupCreated app.language }) := by
  intro s h
  refine ⟨⟨{ h.sound with editing := ?_, searching := ?_ }, fun _ => ?_⟩, h.normal⟩
  · intro field hmode
    cases h.normal.symm.trans hmode
  · intro hmode
    cases h.normal.symm.trans hmode
  · show s.app.landingScreen ≠ .welcome
    rw [h.sound.landing]
    cases entry <;> decide

theorem calm_handleWelcomeKeys {code : KeyCode} :
    Keeping env entry params loads left (handleWelcomeKeys env world code) := by
  unfold handleWelcomeKeys
  split
  case h_1 | h_8 => exact Leaves.pure _
  case h_6 => exact Leaves.bind calm_toggleLanguage fun _ => Leaves.pure _
  case h_7 => exact Leaves.bind calm_land fun _ => Leaves.pure _
  all_goals exact Leaves.bind calm_chooseLanguage fun _ => Leaves.pure _

theorem calm_handleNavigationKeys {code : KeyCode} :
    Keeping env entry params loads left (handleNavigationKeys env world code) := by
  unfold handleNavigationKeys
  split
  case h_1 => exact calm_toggleLanguage
  case h_2 =>
    exact Leaves.bind (Leaves.bind calm_refreshControlState fun _ => calm_reloadAudit) fun _ =>
      calm_say
  case h_7 => exact Leaves.pure _
  all_goals exact calm_showScreen (by decide)

theorem calm_handleStopKey : Keeping env entry params loads left (handleStopKey env world) := by
  refine Leaves.bind Leaves.get fun s => ?_
  split_ifs
  · refine Leaves.bind (fun _ h => ⟨⟨{ h.sound with }, h.welcome⟩, h.normal⟩) fun _ => ?_
    refine Leaves.bind (fun _ h => ⟨⟨{ h.sound with }, h.welcome⟩, h.normal⟩) fun _ => ?_
    refine Leaves.bind calm_refreshControlState fun _ => ?_
    cases requestRuntimeStop world.stopReply with
    | ok message => exact calm_say
    | error err => exact calm_say
  · exact Leaves.bind (fun _ h => ⟨⟨{ h.sound with }, h.welcome⟩, h.normal⟩) fun _ => calm_say

theorem calm_withSelectedField {f : SetupField → SessionM F PUnit}
    (hf : ∀ field, Keeping env entry params loads left (f field)) :
    Keeping env entry params loads left (withSelectedField f) := by
  refine Leaves.bind Leaves.get fun s => ?_
  cases selectedSetupField s.app.setup with
  | some field => exact hf field
  | none => exact Leaves.pure _

/-! ### The keys of the screens -/

variable {s : Session F} {code : KeyCode}

/-- The search is opened on the audit screen, with a search that fits. -/
theorem shown_openSearch (h : Calm env entry params loads left s) (hscreen : s.app.screen = .audit) :
    Shown env entry params loads left
      { s with app := { s.app with inputMode := .auditSearch, inputBuffer := s.app.audit.search } } := by
  refine ⟨{ h.sound with editing := nofun, searching := fun _ => hscreen, buffer := ?_ }, h.welcome⟩
  have hlen : s.app.audit.search.length ≤ 256 := h.sound.audit.search
  have hutf8 : utf8Len s.app.audit.search ≤ 4 * s.app.audit.search.length := utf8Len_le _
  show utf8Len s.app.audit.search < 4096 + 4
  omega

theorem shown_handleAuditNormalKeys (h : Calm env entry params loads left s)
    (hscreen : s.app.screen = .audit) :
    Shown env entry params loads left (after (handleAuditNormalKeys env world code s)) := by
  have haudit := h.sound.audit
  unfold handleAuditNormalKeys
  split
  · exact shown_openSearch h hscreen
  · exact ⟨{ h.sound with audit := ⟨haudit.rows, haudit.search, haudit.modeFilter⟩ }, h.welcome⟩
  · exact ⟨{ h.sound with
      audit := ⟨haudit.rows, haudit.search, fun _ => mem_modeFilters_of_next⟩ }, h.welcome⟩
  · exact (calm_reloadAudit s h).toShown
  · exact h.toShown

/-- A field is edited on the setup screen, where it is selected. -/
theorem shown_openField (h : Calm env entry params loads left s) (hscreen : s.app.screen = .setup) :
    Shown env entry params loads left (after (withSelectedField (fun field =>
      update fun app => { app with inputMode := .setupEdit field, inputBuffer := [] }) s)) := by
  unfold withSelectedField
  rw [get_bind]
  cases hfield : selectedSetupField s.app.setup with
  | none => exact h.toShown
  | some field =>
    refine ⟨{ h.sound with editing := ?_, searching := nofun, buffer := ?_ }, h.welcome⟩
    · rintro _ ⟨⟩
      exact ⟨hscreen, hfield⟩
    · exact Nat.succ_pos _

theorem shown_handleSetupNormalKeys (h : Calm env entry params loads left s)
    (hscreen : s.app.screen = .setup) (hcode : code ≠ .char 's') :
    Shown env entry params loads left (after (handleSetupNormalKeys env world code s)) := by
  unfold handleSetupNormalKeys
  split
  case h_1 | h_2 => exact (calm_updateSetup (fun _ hsetup => hsetup.turn _) s h).toShown
  case h_3 => exact (calm_updateSetup (fun _ hsetup => hsetup.preview) s h).toShown
  case h_4 => exact (calm_updateSetup (fun _ hsetup => hsetup.up) s h).toShown
  case h_5 => exact (calm_updateSetup (fun _ hsetup => hsetup.down) s h).toShown
  case h_6 =>
    refine Calm.toShown (calm_withSelectedField (fun field => ?_) s h)
    exact Leaves.bind (calm_updateSetup fun _ hsetup => hsetup.restore field) fun _ => calm_say
  case h_7 | h_8 => exact shown_openField h hscreen
  case h_9 =>
    refine Calm.toShown (calm_withSelectedField (fun field => ?_) s h)
    exact calm_updateSetup fun _ hsetup => hsetup.cycle _ field
  case h_10 => exact absurd rfl hcode
  case h_11 => exact h.toShown

/-- Off the key `s` nothing is saved. -/
theorem brings_handleScreenKeys (hcode : code ≠ .char 's') :
    Brings (Calm env entry params loads left) (Shown env entry params loads left)
      (handleScreenKeys env world code) := by
  intro s h
  unfold handleScreenKeys
  rw [get_bind]
  cases hscreen : s.app.screen with
  | setup => exact shown_handleSetupNormalKeys h hscreen hcode
  | audit => exact shown_handleAuditNormalKeys h hscreen
  | welcome | dashboard | diagnostics => exact h.toShown

theorem calm_disarmed (h : Calm env entry params loads left s) :
    Calm env entry params loads left (disarmed s) := ⟨⟨{ h.sound with }, h.welcome⟩, h.normal⟩

theorem brings_handleOtherKeys (hcode : code ≠ .char 's') :
    Brings (Calm env entry params loads left) (Shown env entry params loads left)
      (handleOtherKeys env world code) :=
  Brings.bind calm_handleNavigationKeys (fun _ h => h.toShown) fun _ =>
    Brings.bind (fun _ h => calm_disarmed h) (fun _ h => h.toShown) fun _ =>
      Brings.before (brings_handleScreenKeys hcode) fun _ => Leaves.pure _

theorem brings_handleCommonKeys (hcode : code ≠ .char 's') :
    Brings (Calm env entry params loads left) (Shown env entry params loads left)
      (handleCommonKeys env world code) := by
  unfold handleCommonKeys
  split
  · exact Brings.of_leaves (Leaves.bind calm_handleStopKey fun _ => Leaves.pure _) fun _ h => h.toShown
  · refine Brings.bind Leaves.get (fun _ h => h.toShown) fun s => ?_
    split_ifs
    · refine Brings.of_leaves (Leaves.bind (fun _ h => calm_disarmed h) fun _ => ?_) fun _ h => h.toShown
      exact Leaves.bind calm_say fun _ => Leaves.pure _
    · exact brings_handleOtherKeys hcode
  · exact fun _ h => h.toShown
  · exact brings_handleOtherKeys hcode

/-! ### Saving -/

/-- The path is the one that the terminal was opened with, after any saves. -/
theorem Sound.configPath {host : Host} {app : OperatorTuiApp F}
    (h : Sound host entry params loads app) :
    app.startup.configPath = params.startup.configPath := by
  rw [h.startup]
  cases hlast : loads.getLast? with
  | none => rfl
  | some load => exact (h.loaded load (List.mem_of_getLast? hlast)).1

/-- One more save. -/
theorem Sound.save {app : OperatorTuiApp F} {load : LoadedStartupConfig F}
    (h : Sound env.host entry params loads app)
    (hload : saveDraft env world app.startup.configPath app.setup.draft = .ok load) :
    ∀ load' ∈ loads ++ [load], load'.configPath = params.startup.configPath ∧
      validateConfig load'.app = .ok () ∧ KeySet env.host load'.app := by
  intro load' hmem
  rcases List.mem_append.1 hmem with hmem | hmem
  · exact h.loaded load' hmem
  · obtain ⟨hpath, hvalid⟩ := of_saveDraft hload
    rw [List.mem_singleton.1 hmem]
    exact ⟨hpath.trans h.configPath, hvalid⟩

theorem shown_saveSetup (h : Calm env entry params loads left s) (hscreen : s.app.screen = .setup) :
    Shown env entry params (loads ++ (savedBy env world s (.char 's')).toList) left
      (after (saveSetup env world s)) := by
  unfold savedBy
  by_cases hpage : s.app.setup.page = .preview
  · rw [if_pos ⟨rfl, h.normal, hscreen, hpage⟩]
    cases hsave : saveDraft env world s.app.startup.configPath s.app.setup.draft with
    | error err =>
      rw [saveSetup_fails hpage hsave]
      show Shown env entry params (loads ++ []) left s
      rw [List.append_nil]
      exact h.toShown
    | ok load =>
      have hgoes : saveSetup env world s = (do
          update fun app => { app with startup := load }
          reloadControl env world
          reloadAudit env world
          update fun app => { app with savedConfig := true }
          say env "status.saved" [("path", env.texts.display load.configPath)] :
          SessionM F PUnit) s := by
        show (if s.app.setup.page ≠ .preview then _ else ofExcept
          (saveDraft env world s.app.startup.configPath s.app.setup.draft) >>= _ :
          SessionM F PUnit) s = _
        rw [if_neg (not_not.2 hpage), hsave]
        rfl
      rw [hgoes]
      refine ⟨{ h.sound with
        startup := ?_
        savedConfig := ?_
        loaded := h.sound.save hsave
        audit := h.reloaded world.audit load }, h.welcome⟩
      · show load = (loads ++ [load]).getLast?.getD params.startup
        rw [List.getLast?_append]
        rfl
      · show true = !(loads ++ [load]).isEmpty
        rw [List.isEmpty_eq_false_iff.2 (by simp)]
        rfl
  · rw [if_neg fun h' => hpage h'.2.2.2]
    show Shown env entry params (loads ++ []) left (after (saveSetup env world s))
    rw [List.append_nil]
    have hsay : saveSetup env world s = say env "status.move_preview" [] s := by
      show (if s.app.setup.page ≠ .preview then _ else _ : SessionM F PUnit) s = _
      rw [if_pos hpage]
    rw [hsay]
    exact (calm_say s h).toShown

/-- The key `s` saves only on the setup screen. -/
theorem shown_saveKey (h : Calm env entry params loads left s) :
    Shown env entry params (loads ++ (savedBy env world s (.char 's')).toList) left
      (after (handleScreenKeys env world (.char 's') s)) := by
  by_cases hscreen : s.app.screen = .setup
  · rw [handleScreenKeys_save hscreen]
    exact shown_saveSetup h hscreen
  · have hnone : savedBy env world s (.char 's') = none := if_neg fun h' => hscreen h'.2.2.1
    rw [hnone, Option.toList_none, List.append_nil]
    unfold handleScreenKeys
    rw [get_bind]
    cases hs : s.app.screen with
    | setup => exact absurd hs hscreen
    | audit => exact shown_handleAuditNormalKeys h hs
    | welcome | dashboard | diagnostics => exact h.toShown

/-! ### The keys of the editors -/

/-- The buffer is not longer than the limit but by a part of its last character. -/
theorem utf8Len_push_lt {buffer : Text} (h : utf8Len buffer < maxInputBufferLen) (ch : Char) :
    utf8Len (buffer ++ [ch]) < maxInputBufferLen + 4 := by
  have hone : utf8Len [ch] ≤ 4 * [ch].length := utf8Len_le [ch]
  rw [List.length_singleton] at hone
  unfold utf8Len utf8 at *
  rw [List.flatMap_append, List.length_append]
  omega

theorem utf8Len_dropLast_le (buffer : Text) : utf8Len buffer.dropLast ≤ utf8Len buffer :=
  ((List.dropLast_sublist buffer).flatMap _).length_le

theorem leaves_editBuffer : Leaves (Shown env entry params loads left) (editBuffer (F := F) code) := by
  intro s h
  unfold editBuffer
  split
  case h_1 =>
    exact ⟨{ h.sound with buffer := (utf8Len_dropLast_le _).trans_lt h.sound.buffer }, h.welcome⟩
  case h_2 ch =>
    show Shown env entry params loads left
      ⟨(if utf8Len s.app.inputBuffer < maxInputBufferLen then
        { s.app with inputBuffer := s.app.inputBuffer ++ [ch] } else s.app), s.requests⟩
    split_ifs with hlen
    · exact ⟨{ h.sound with buffer := utf8Len_push_lt hlen ch }, h.welcome⟩
    · exact h
  case h_3 => exact h

theorem shown_handleSetupEditKeys {field : SetupField} (h : Shown env entry params loads left s) :
    Shown env entry params loads left (after (handleSetupEditKeys env field code s)) := by
  unfold handleSetupEditKeys
  split
  · exact h
  · show Shown env entry params loads left (after ((ofExcept (applyCustomFieldInput env.texts s.app.setup
      field s.app.inputBuffer s.app.language) >>= _ : SessionM F Bool) s))
    cases happly : applyCustomFieldInput env.texts s.app.setup field s.app.inputBuffer
        s.app.language with
    | error err => exact h
    | ok setup =>
      have hsetup := applyCustomFieldInput_draft happly
      refine ⟨{ h.sound with setup := ?_, editing := ?_, buffer := Nat.succ_pos _ }, h.welcome⟩
      · show setup.Sound
        rw [hsetup]
        exact h.sound.setup.of_eq rfl rfl rfl
      · show ∀ field, s.app.inputMode = .setupEdit field →
          s.app.screen = .setup ∧ selectedSetupField setup = some field
        rw [hsetup]
        exact h.sound.editing
  · exact Leaves.bind leaves_editBuffer (fun _ => Leaves.pure _) s h

theorem shown_handleAuditSearchKeys (h : Shown env entry params loads left s) :
    Shown env entry params loads left (after (handleAuditSearchKeys env code s)) := by
  unfold handleAuditSearchKeys
  split
  · exact h
  · refine ⟨{ h.sound with audit := ⟨h.sound.audit.rows, ?_, h.sound.audit.modeFilter⟩ }, h.welcome⟩
    exact List.length_take_le _ _
  · exact Leaves.bind leaves_editBuffer (fun _ => Leaves.pure _) s h

theorem leaves_leaveEditor {isDone : Bool} :
    Leaves (Shown env entry params loads left) (leaveEditor (F := F) isDone) := by
  intro s h
  cases isDone with
  | false => exact h
  | true => exact ⟨{ h.sound with editing := nofun, searching := nofun }, h.welcome⟩

/-! ### A key, and a pass -/

/-- **What a key does.**  Whatever fails, the app is sound after it, with what the key has saved. -/
theorem shown_dispatch (h : Shown env entry params loads left s) (code : KeyCode) :
    Shown env entry params (loads ++ (savedBy env world s code).toList) left
      (after (dispatch env world code s)) := by
  show Shown env entry params _ left (after (handlerIn env world code s.app.inputMode s))
  cases hmode : s.app.inputMode with
  | normal =>
    have hcalm : Calm env entry params loads left s := ⟨h, hmode⟩
    show Shown env entry params _ left (after ((if s.app.screen = .welcome then
      handleWelcomeKeys env world code else handleCommonKeys env world code : SessionM F Bool) s))
    by_cases hwelcome : s.app.screen = .welcome
    · have hnone : savedBy env world s code = none := by
        refine if_neg fun h' => ?_
        cases hwelcome.symm.trans h'.2.2.1
      rw [if_pos hwelcome, hnone, Option.toList_none, List.append_nil]
      exact (calm_handleWelcomeKeys s hcalm).toShown
    · rw [if_neg hwelcome]
      by_cases hcode : code = .char 's'
      · -- the key disarms the stop before it saves
        subst hcode
        have hsaved : Shown env entry params (loads ++ (savedBy env world s (.char 's')).toList) left
            (after (handleScreenKeys env world (.char 's') (disarmed s))) :=
          shown_saveKey (calm_disarmed hcalm)
        exact Brings.before (fun t (ht : t = disarmed s) => ht ▸ hsaved) (fun _ => Leaves.pure _)
          (disarmed s) rfl
      · have hnone : savedBy env world s code = none := if_neg fun h' => hcode h'.1
        rw [hnone, Option.toList_none, List.append_nil]
        exact brings_handleCommonKeys hcode s hcalm
  | setupEdit field =>
    have hnone : savedBy env world s code = none := by
      refine if_neg fun h' => ?_
      cases hmode.symm.trans h'.2.1
    rw [hnone, Option.toList_none, List.append_nil]
    exact Leaves.bind (fun _ => shown_handleSetupEditKeys) (fun _ => leaves_leaveEditor) s h
  | auditSearch =>
    have hnone : savedBy env world s code = none := by
      refine if_neg fun h' => ?_
      cases hmode.symm.trans h'.2.1
    rw [hnone, Option.toList_none, List.append_nil]
    exact Leaves.bind (fun _ => shown_handleAuditSearchKeys) (fun _ => leaves_leaveEditor) s h

theorem shown_refreshed (h : Shown env entry params loads left s) (pass : Pass) :
    Shown env entry params loads left (refreshed env s pass) := by
  unfold refreshed
  split_ifs
  · exact ⟨{ h.sound with }, h.welcome⟩
  · exact h

/-- A loop with a sound session, whose result says whether something was saved. -/
structure Kept (env : TuiEnv F) (entry : OperatorTuiEntry) (params : OperatorTuiParams F) (left : Prop)
    (loads : List (LoadedStartupConfig F)) (l : Loop F) : Prop where
  shown : Shown env entry params loads left l.session
  result : ∀ isSaved, l.result = some (.ok isSaved) → isSaved = !loads.isEmpty

theorem Kept.of_running (h : Shown env entry params loads left s) :
    Kept env entry params left loads ⟨s, none⟩ := ⟨h, nofun⟩

/-- The loop returns with what the app says. -/
theorem Kept.of_returned (h : Shown env entry params loads left s) :
    Kept env entry params left loads ⟨s, some (.ok s.app.savedConfig)⟩ := by
  refine ⟨h, fun isSaved hok => ?_⟩
  cases hok
  exact h.sound.savedConfig

theorem Kept.of_failed (h : Shown env entry params loads left s) (err : Text) :
    Kept env entry params left loads ⟨s, some (.error err)⟩ := ⟨h, nofun⟩

theorem Kept.handled {r : EStateM.Result Text (Session F) Bool}
    (h : Shown env entry params loads left (after r)) : Kept env entry params left loads (handled r) := by
  cases r with
  | ok isDone t =>
    cases isDone with
    | true => exact Kept.of_returned h
    | false => exact Kept.of_running h
  | error err t => exact Kept.of_failed h err

/-- One pass of the loop. -/
theorem Kept.step {l : Loop F} (h : Kept env entry params left loads l) (pass : Pass) :
    Kept env entry params left (loads ++ (saved env l pass).toList) (step env l pass) := by
  have hrefreshed := shown_refreshed h.shown pass
  unfold saved handledKey Tui.step
  cases hresult : l.result with
  | some r =>
    show Kept env entry params left (loads ++ []) l
    rw [List.append_nil]
    exact h
  | none =>
    cases hevent : pass.event with
    | failed err =>
      show Kept env entry params left (loads ++ []) ⟨refreshed env l.session pass, some (.error err)⟩
      rw [List.append_nil]
      exact Kept.of_failed hrefreshed err
    | nothing =>
      show Kept env entry params left (loads ++ []) ⟨refreshed env l.session pass, none⟩
      rw [List.append_nil]
      exact Kept.of_running hrefreshed
    | press code control =>
      dsimp only
      split_ifs
      · show Kept env entry params left (loads ++ []) ⟨refreshed env l.session pass, _⟩
        rw [List.append_nil]
        exact Kept.of_returned hrefreshed
      · exact Kept.handled (shown_dispatch hrefreshed code)

/-- Any number of passes. -/
theorem Kept.run {l : Loop F} (h : Kept env entry params left loads l) (passes : List Pass) :
    Kept env entry params left (loads ++ saves env l passes) (Runs.run (Tui.step env) l passes) :=
  Runs.trace_inv (I := Kept env entry params left) (fun _ _ pass h => h.step pass) h passes

theorem kept_start (env : TuiEnv F) (world : World) (entry : OperatorTuiEntry)
    (params : OperatorTuiParams F) (language : UiLanguage) (now : Instant) :
    Kept env entry params False [] (start env world entry params language now) := by
  refine Kept.of_running ⟨?_, False.elim⟩
  refine
    { startup := rfl, savedConfig := rfl, loaded := fun _ hmem => absurd hmem List.not_mem_nil,
      landing := rfl, limit := rfl, setup := ?_, audit := sound_loadAuditState _ _ _ _ _,
      editing := nofun, searching := nofun, buffer := Nat.succ_pos _ }
  refine ⟨rfl, fun hfields => ?_⟩
  show ∃ field, (setupFieldsForPage (if params.startupCreated then .detector else .preview))[0]? = _
  cases hcreated : params.startupCreated with
  | true => exact ⟨_, rfl⟩
  | false =>
    refine absurd ?_ hfields
    show setupFieldsForPage (if params.startupCreated then .detector else .preview) = []
    rw [hcreated]
    rfl

/-- **What the terminal keeps.**  In every run of the terminal, whatever keys, refreshes, answers and
faults it gets: the app is sound after what was saved; if the loop returns without an error, it says
whether anything was; and a run that has left the welcome screen does not come back to it. -/
theorem terminal_sound (env : TuiEnv F) (world : World) (entry : OperatorTuiEntry)
    (params : OperatorTuiParams F) (language : UiLanguage) (now : Instant) (passes later : List Pass) :
    Sound env.host entry params (saves env (start env world entry params language now) passes)
        (Runs.run (step env) (start env world entry params language now) passes).session.app ∧
      (∀ isSaved,
        (Runs.run (step env) (start env world entry params language now) passes).result =
          some (.ok isSaved) →
        isSaved = !(saves env (start env world entry params language now) passes).isEmpty) ∧
      ((Runs.run (step env) (start env world entry params language now) passes).session.app.screen ≠
          .welcome →
        (Runs.run (step env) (start env world entry params language now)
          (passes ++ later)).session.app.screen ≠ .welcome) := by
  have hrun := (kept_start env world entry params language now).run passes
  rw [List.nil_append] at hrun
  refine ⟨hrun.shown.sound, hrun.result, fun hscreen => ?_⟩
  have hleft : Kept env entry params True (saves env (start env world entry params language now) passes)
      (Runs.run (step env) (start env world entry params language now) passes) :=
    ⟨⟨hrun.shown.sound, fun _ => hscreen⟩, hrun.result⟩
  rw [Runs.run_append]
  exact (hleft.run later).shown.welcome trivial

end Keys

end Tui

end OoBot
