import OoBot.Config.Savable
import OoBot.Tui.Fields
import OoBot.Tui.Stop

/-!
# Errors end the session

The handlers return the error of a text that a field does not take, and of a configuration that is not
valid, or cannot be written or loaded again.  Nothing else fails (`dispatch_goes`); and the loop returns
the error instead of showing it (`failed_step_iff`), although the draft is as it was.
-/

namespace OoBot

open Fallible Files

namespace Tui

section Failures

variable {F : Type}

/-- The field has no value that reads as the text. -/
def Unreadable (texts : SetupTexts) (field : SetupField) (trimmed : Text) : Prop :=
  match field with
  | .detectorBackend => ∃ err, texts.backendFromYaml trimmed = .error err
  | .reactionEmojiId | .maxCountCap | .maxSendChars | .auditExportMaxRows | .auditQueryMaxRows =>
      parseUnsigned maxUsize trimmed = none
  | _ => False

/-- The draft is not valid, or it cannot be written, or not be loaded again. -/
def Unsavable (env : TuiEnv F) (world : World) (path : Path) (draft : StartupConfig F) : Prop :=
  (∃ err, validateConfig draft = .error err) ∨
    (∃ err disk, writeStartupConfigToPath env.crates env.host world.faults world.random path draft
      world.disk = .error err disk) ∨
    ∃ disk err, writeStartupConfigToPath env.crates env.host world.faults world.random path draft
        world.disk = .ok () disk ∧
      loadStartupConfigFromPath env.crates env.host disk path = .error err

/-- A step that the key asks for fails: reading a value, or saving the draft. -/
def StepFails (env : TuiEnv F) (world : World) (s : Session F) (code : KeyCode) : Prop :=
  match s.app.inputMode with
  | .normal =>
      code = .char 's' ∧ s.app.screen = .setup ∧ s.app.setup.page = .preview ∧
        Unsavable env world s.app.startup.configPath s.app.setup.draft
  | .setupEdit field =>
      code = .enter ∧ trim s.app.inputBuffer ≠ [] ∧
        Unreadable env.texts field (trim s.app.inputBuffer)
  | .auditSearch => False

variable {env : TuiEnv F} {world : World}

/-! ### What fails -/

theorem typedDraft_error_iff {texts : SetupTexts} {language : UiLanguage} {draft : StartupConfig F}
    {field : SetupField} {trimmed : Text} :
    (∃ err, typedDraft texts language draft field trimmed = .error err) ↔
      Unreadable texts field trimmed := by
  have hnumber {error : String} {k : ℕ → StartupConfig F} :
      (∃ err, (do
        let n ← parseField texts language error trimmed
        pure (k n) : Except Text (StartupConfig F)) = .error err) ↔
        parseUnsigned maxUsize trimmed = none := by
    rw [except_bind_error_iff]
    constructor
    · rintro (h | ⟨n, -, err, herr⟩)
      · exact okOr_error_iff.1 h
      · cases herr
    · exact fun h => Or.inl (okOr_error_iff.2 h)
  cases field with
  | detectorBackend =>
    show (∃ err, (texts.backendFromYaml trimmed >>= _) = .error err) ↔ _
    rw [except_bind_error_iff]
    constructor
    · rintro (h | ⟨backend, -, err, herr⟩)
      · exact h
      · cases herr
    · exact Or.inl
  | reactionEmojiId | maxCountCap | maxSendChars | auditExportMaxRows | auditQueryMaxRows =>
    exact hnumber
  | _ => exact iff_of_false (fun ⟨err, herr⟩ => by cases herr) id

theorem applyCustomFieldInput_error_iff {texts : SetupTexts} {language : UiLanguage}
    {setup : SetupState F} {field : SetupField} {raw : Text} :
    (∃ err, applyCustomFieldInput texts setup field raw language = .error err) ↔
      trim raw ≠ [] ∧ Unreadable texts field (trim raw) := by
  unfold applyCustomFieldInput
  by_cases hblank : trim raw = []
  · rw [hblank]
    exact iff_of_false (fun ⟨err, herr⟩ => by cases herr) fun h => h.1 rfl
  · simp only [List.isEmpty_iff, hblank, if_false, ne_eq, not_false_eq_true, true_and]
    rw [except_bind_error_iff, typedDraft_error_iff]
    exact or_iff_left fun ⟨draft, _, err, herr⟩ => by cases herr

theorem saveDraft_error_iff {path : Path} {draft : StartupConfig F} :
    (∃ err, saveDraft env world path draft = .error err) ↔ Unsavable env world path draft := by
  unfold saveDraft Unsavable
  rw [except_bind_error_iff, mapError_error_iff]
  cases hvalid : validateConfig draft with
  | error err => exact iff_of_true (Or.inl ⟨err, rfl⟩) (Or.inl ⟨err, rfl⟩)
  | ok u =>
    cases hwrite : writeStartupConfigToPath env.crates env.host world.faults world.random path draft
        world.disk with
    | error err disk =>
      exact iff_of_true (Or.inr ⟨u, rfl, err.text, rfl⟩) (Or.inr (Or.inl ⟨err, disk, rfl⟩))
    | ok u' disk =>
      cases hload : loadStartupConfigFromPath env.crates env.host disk path with
      | error err =>
        refine iff_of_true (Or.inr ⟨u, rfl, err.text, ?_⟩) (Or.inr (Or.inr ⟨disk, err, rfl, hload⟩))
        show Except.mapError _ (loadStartupConfigFromPath env.crates env.host disk path) = _
        rw [hload]
        rfl
      | ok loaded =>
        refine iff_of_false ?_ ?_
        · rintro (⟨err, herr⟩ | ⟨_, -, err, herr⟩)
          · cases herr
          · change Except.mapError _ (loadStartupConfigFromPath env.crates env.host disk path) = _
              at herr
            rw [hload] at herr
            cases herr
        · rintro (⟨err, herr⟩ | ⟨err, disk', hdisk⟩ | ⟨disk', err, hdisk, herr⟩)
          · cases herr
          · cases hdisk
          · cases hdisk
            rw [hload] at herr
            cases herr

/-! ### What goes through -/

theorem total_withSelectedField {f : SetupField → SessionM F PUnit} (h : ∀ field, Total (f field)) :
    Total (withSelectedField f) := by
  refine Total.bind Total.get fun s => ?_
  cases selectedSetupField s.app.setup with
  | some field => exact h field
  | none => exact Total.pure _

/-- Off the key `s`, the setup screen does not fail. -/
theorem total_handleSetupNormalKeys {code : KeyCode} (h : code ≠ .char 's') :
    Total (handleSetupNormalKeys env world code) := by
  unfold handleSetupNormalKeys
  split
  case h_6 => exact total_withSelectedField fun _ _ => ⟨_, _, rfl⟩
  case h_7 | h_8 => exact total_withSelectedField fun _ _ => ⟨_, _, rfl⟩
  case h_9 => exact total_withSelectedField fun _ _ => ⟨_, _, rfl⟩
  case h_10 => exact absurd rfl h
  all_goals exact fun _ => ⟨_, _, rfl⟩

theorem total_handleAuditNormalKeys {code : KeyCode} :
    Total (handleAuditNormalKeys env world code) := by
  unfold handleAuditNormalKeys
  split
  all_goals exact fun _ => ⟨_, _, rfl⟩

theorem total_handleScreenKeys {code : KeyCode} (h : code ≠ .char 's') :
    Total (handleScreenKeys env world code) := by
  refine Total.bind Total.get fun s => ?_
  cases s.app.screen with
  | setup => exact total_handleSetupNormalKeys h
  | audit => exact total_handleAuditNormalKeys
  | welcome | dashboard | diagnostics => exact Total.pure _

theorem total_handleOtherKeys {code : KeyCode} (h : code ≠ .char 's') :
    Total (handleOtherKeys env world code) :=
  Total.bind total_handleNavigationKeys fun _ => Total.bind (Total.modify _) fun _ =>
    Total.bind (total_handleScreenKeys h) fun _ => Total.pure _

theorem total_handleStopKey : Total (handleStopKey env world) := by
  intro s
  cases h : s.app.control.stopArmed with
  | false =>
    obtain ⟨t, ht, -⟩ := @handleStopKey_arms _ env world s h
    exact ⟨_, t, ht⟩
  | true =>
    obtain ⟨t, ht, -⟩ := @handleStopKey_requests _ env world s h
    exact ⟨_, t, ht⟩

theorem total_handleCommonKeys {code : KeyCode} (h : code ≠ .char 's') :
    Total (handleCommonKeys env world code) := by
  unfold handleCommonKeys
  split
  · exact Total.bind total_handleStopKey fun _ => Total.pure _
  · refine Total.bind Total.get fun s => ?_
    split_ifs
    · exact fun _ => ⟨_, _, rfl⟩
    · exact total_handleOtherKeys h
  · exact Total.pure _
  · exact total_handleOtherKeys h

theorem total_handleWelcomeKeys {code : KeyCode} : Total (handleWelcomeKeys env world code) := by
  unfold handleWelcomeKeys
  split
  case h_6 => exact Total.bind total_toggleLanguage fun _ => Total.pure _
  all_goals exact fun _ => ⟨_, _, rfl⟩

theorem total_editBuffer {code : KeyCode} : Total (editBuffer (F := F) code) := by
  unfold editBuffer
  split
  all_goals exact fun _ => ⟨_, _, rfl⟩

theorem total_handleAuditSearchKeys {code : KeyCode} :
    Total (handleAuditSearchKeys env code) := by
  unfold handleAuditSearchKeys
  split
  · exact Total.pure _
  · exact fun _ => ⟨_, _, rfl⟩
  · exact Total.bind total_editBuffer fun _ => Total.pure _

theorem total_leaveEditor {isDone : Bool} : Total (leaveEditor (F := F) isDone) := by
  cases isDone <;> exact fun _ => ⟨_, _, rfl⟩

/-! ### Saving -/

theorem saveSetup_fails {s : Session F} {err : Text} (hpage : s.app.setup.page = .preview)
    (h : saveDraft env world s.app.startup.configPath s.app.setup.draft = .error err) :
    saveSetup env world s = .error err s := by
  show (if s.app.setup.page ≠ .preview then _ else ofExcept
    (saveDraft env world s.app.startup.configPath s.app.setup.draft) >>= _ : SessionM F PUnit) s = _
  rw [if_neg (not_not.2 hpage), h]
  rfl

theorem saveSetup_goes {s : Session F}
    (h : s.app.setup.page = .preview →
      ∃ startup, saveDraft env world s.app.startup.configPath s.app.setup.draft = .ok startup) :
    ∃ t, saveSetup env world s = .ok ⟨⟩ t := by
  show ∃ t, (if s.app.setup.page ≠ .preview then _ else ofExcept
    (saveDraft env world s.app.startup.configPath s.app.setup.draft) >>= _ : SessionM F PUnit) s =
      .ok ⟨⟩ t
  by_cases hpage : s.app.setup.page = .preview
  · obtain ⟨startup, hstartup⟩ := h hpage
    rw [if_neg (not_not.2 hpage), hstartup]
    exact ⟨_, rfl⟩
  · rw [if_pos hpage]
    exact ⟨_, rfl⟩

/-- The session without an armed stop. -/
def disarmed (s : Session F) : Session F :=
  { s with app := { s.app with control := { s.app.control with stopArmed := false } } }

/-- The key `s` disarms the stop and is left to the screen. -/
theorem dispatch_save {s : Session F} (hmode : s.app.inputMode = .normal)
    (hscreen : s.app.screen ≠ .welcome) : dispatch env world (.char 's') s =
      (handleScreenKeys env world (.char 's') >>= fun _ => pure false) (disarmed s) := by
  show handlerIn env world (.char 's') s.app.inputMode s = _
  rw [hmode]
  show (if s.app.screen = .welcome then _ else handleCommonKeys env world (.char 's') :
    SessionM F Bool) s = _
  rw [if_neg hscreen]
  rfl

theorem handleScreenKeys_save {s : Session F} (hscreen : s.app.screen = .setup) :
    handleScreenKeys env world (.char 's') s = saveSetup env world s := by
  unfold handleScreenKeys
  rw [get_bind, hscreen]
  rfl

/-! ### A key -/

/-- A step that fails ends in an error, and the draft is as it was. -/
theorem dispatch_fails {s : Session F} {code : KeyCode} (h : StepFails env world s code) :
    ∃ err t, dispatch env world code s = .error err t ∧ t.app.setup.draft = s.app.setup.draft := by
  unfold StepFails at h
  cases hmode : s.app.inputMode with
  | normal =>
    simp only [hmode] at h
    obtain ⟨rfl, hscreen, hpage, hsave⟩ := h
    obtain ⟨err, herr⟩ := saveDraft_error_iff.2 hsave
    have hwelcome : s.app.screen ≠ .welcome := by
      rw [hscreen]
      decide
    have hfails : saveSetup env world (disarmed s) = .error err (disarmed s) :=
      saveSetup_fails hpage herr
    refine ⟨err, disarmed s, ?_, rfl⟩
    rw [dispatch_save hmode hwelcome]
    exact bind_error_iff.2 (Or.inl ((handleScreenKeys_save (s := disarmed s) hscreen).trans hfails))
  | setupEdit field =>
    simp only [hmode] at h
    obtain ⟨rfl, hfails⟩ := h
    obtain ⟨err, herr⟩ := applyCustomFieldInput_error_iff.2 hfails
    refine ⟨err, s, ?_, rfl⟩
    show handlerIn env world .enter s.app.inputMode s = _
    rw [hmode]
    refine bind_error_iff.2 (Or.inl ?_)
    show (ofExcept (applyCustomFieldInput env.texts s.app.setup field s.app.inputBuffer
      s.app.language) >>= _ : SessionM F Bool) s = _
    rw [herr]
    rfl
  | auditSearch =>
    simp only [hmode] at h

theorem handleScreenKeys_save_goes {s : Session F}
    (h : ¬ (s.app.screen = .setup ∧ s.app.setup.page = .preview ∧
      Unsavable env world s.app.startup.configPath s.app.setup.draft)) :
    ∃ t, handleScreenKeys env world (.char 's') s = .ok ⟨⟩ t := by
  by_cases hscreen : s.app.screen = .setup
  · rw [handleScreenKeys_save hscreen]
    refine saveSetup_goes fun hpage => ?_
    cases hsave : saveDraft env world s.app.startup.configPath s.app.setup.draft with
    | ok startup => exact ⟨startup, rfl⟩
    | error err => exact absurd ⟨hscreen, hpage, saveDraft_error_iff.1 ⟨err, hsave⟩⟩ h
  · unfold handleScreenKeys
    rw [get_bind]
    cases hs : s.app.screen with
    | setup => exact absurd hs hscreen
    | welcome | dashboard | diagnostics | audit => exact ⟨_, rfl⟩

theorem handleSetupEditKeys_goes {s : Session F} {field : SetupField} {code : KeyCode}
    (h : ¬ (code = .enter ∧ trim s.app.inputBuffer ≠ [] ∧
      Unreadable env.texts field (trim s.app.inputBuffer))) :
    ∃ isDone t, handleSetupEditKeys env field code s = .ok isDone t := by
  unfold handleSetupEditKeys
  split
  · exact ⟨_, _, rfl⟩
  · show ∃ isDone t, (ofExcept (applyCustomFieldInput env.texts s.app.setup field s.app.inputBuffer
      s.app.language) >>= _ : SessionM F Bool) s = .ok isDone t
    cases happly : applyCustomFieldInput env.texts s.app.setup field s.app.inputBuffer
        s.app.language with
    | ok setup => exact ⟨_, _, rfl⟩
    | error err => exact absurd ⟨rfl, applyCustomFieldInput_error_iff.1 ⟨err, happly⟩⟩ h
  · exact Total.bind total_editBuffer (fun _ => Total.pure _) s

/-- Everything else goes through. -/
theorem dispatch_goes {s : Session F} {code : KeyCode} (h : ¬ StepFails env world s code) :
    ∃ isDone t, dispatch env world code s = .ok isDone t := by
  unfold StepFails at h
  show ∃ isDone t, handlerIn env world code s.app.inputMode s = .ok isDone t
  cases hmode : s.app.inputMode with
  | normal =>
    simp only [hmode] at h
    show ∃ isDone t, (if s.app.screen = .welcome then handleWelcomeKeys env world code
      else handleCommonKeys env world code : SessionM F Bool) s = .ok isDone t
    by_cases hwelcome : s.app.screen = .welcome
    · rw [if_pos hwelcome]
      exact total_handleWelcomeKeys s
    · rw [if_neg hwelcome]
      by_cases hcode : code = .char 's'
      · subst hcode
        obtain ⟨t, ht⟩ := @handleScreenKeys_save_goes _ env world (disarmed s) fun h' => h ⟨rfl, h'⟩
        exact ⟨false, t, bind_of_ok ht⟩
      · exact total_handleCommonKeys hcode s
  | setupEdit field =>
    simp only [hmode] at h
    obtain ⟨isDone, t, ht⟩ := handleSetupEditKeys_goes h
    obtain ⟨isDone', t', ht'⟩ := @total_leaveEditor _ isDone t
    exact ⟨isDone', t', (bind_of_ok ht).trans ht'⟩
  | auditSearch =>
    exact Total.bind total_handleAuditSearchKeys (fun _ => total_leaveEditor) s

/-! ### The loop -/

/-- The loop goes on after a pass, with the draft that it had. -/
def GoesOnWithDraft (env : TuiEnv F) (s : Session F) (pass : Pass) : Prop :=
  (step env ⟨s, none⟩ pass).result = none ∧
    (step env ⟨s, none⟩ pass).session.app.setup.draft = s.app.setup.draft

/-- A step fails for the session of a pass if it fails before the refresh. -/
theorem stepFails_refreshed {s : Session F} {pass : Pass} {code : KeyCode} :
    StepFails env world (refreshed env s pass) code ↔ StepFails env world s code := by
  unfold refreshed
  split_ifs <;> rfl

theorem step_press {s : Session F} {pass : Pass} {code : KeyCode} {control : Bool}
    (hevent : pass.event = .press code control) (hquit : isForceQuitKey code control = false) :
    step env ⟨s, none⟩ pass = handled (dispatch env pass.world code (refreshed env s pass)) := by
  unfold step
  simp only [hevent, hquit]
  rfl

/-- The refresh at the start of a pass leaves the draft alone. -/
theorem draft_refreshed (s : Session F) (pass : Pass) :
    (refreshed env s pass).app.setup.draft = s.app.setup.draft := by
  unfold refreshed
  split_ifs <;> rfl

/-- A step that fails ends the loop with its error. -/
theorem step_of_fails {s : Session F} {pass : Pass} {code : KeyCode} {control : Bool}
    (hevent : pass.event = .press code control) (hquit : isForceQuitKey code control = false)
    (hfails : StepFails env pass.world s code) :
    ∃ err t, step env ⟨s, none⟩ pass = ⟨t, some (.error err)⟩ ∧
      t.app.setup.draft = s.app.setup.draft := by
  obtain ⟨err, t, ht, hdraft⟩ := dispatch_fails (stepFails_refreshed.2 hfails)
  refine ⟨err, t, ?_, hdraft.trans (draft_refreshed s pass)⟩
  rw [step_press hevent hquit, ht]
  rfl

/-- **What the loop does when a step fails.**  For a key that is given to a handler: if a step fails, the
loop does not go on, so it survives failures only where there are none; it returns an error exactly if a
step fails; and the draft is as it was then. -/
theorem failed_step_iff (env : TuiEnv F) (s : Session F) (pass : Pass) {code : KeyCode} {control : Bool}
    (hevent : pass.event = .press code control) (hquit : isForceQuitKey code control = false) :
    ((StepFails env pass.world s code → GoesOnWithDraft env s pass) ↔
        ¬ StepFails env pass.world s code) ∧
      ((∃ err, (step env ⟨s, none⟩ pass).result = some (.error err)) ↔
        StepFails env pass.world s code) ∧
      (StepFails env pass.world s code →
        (step env ⟨s, none⟩ pass).session.app.setup.draft = s.app.setup.draft) := by
  by_cases hfails : StepFails env pass.world s code
  · obtain ⟨err, t, hstep, hdraft⟩ := step_of_fails hevent hquit hfails
    unfold GoesOnWithDraft
    rw [hstep]
    refine ⟨iff_of_false (fun h => ?_) (not_not_intro hfails), iff_of_true ⟨err, rfl⟩ hfails,
      fun _ => hdraft⟩
    cases (h hfails).1
  · obtain ⟨isDone, t, ht⟩ := dispatch_goes (fun h => hfails (stepFails_refreshed.1 h))
    refine ⟨iff_of_true (fun h => absurd h hfails) hfails, iff_of_false ?_ hfails,
      fun h => absurd h hfails⟩
    rintro ⟨err, herr⟩
    rw [step_press hevent hquit, ht] at herr
    cases isDone <;> cases herr

/-- The signature that the setup screen proposes is not beside any configuration, so saving a draft with
it ends the session, whatever the configuration is and whatever the disk holds. -/
theorem preset_save_ends_session {s : Session F} {pass : Pass} {control : Bool} {name : Name}
    (hpreset : env.texts.pathFrom "config/oo-bot.yaml.sig".toList =
      .names ["config".toList, "oo-bot.yaml.sig".toList])
    (hmode : s.app.inputMode = .normal) (hscreen : s.app.screen = .setup)
    (hpage : s.app.setup.page = .preview)
    (hsigned : s.app.setup.draft.integrity.configSignature = some (presetSignature env.texts))
    (hname : s.app.startup.configPath.fileName = some name)
    (hevent : pass.event = .press (.char 's') control) :
    ∃ err, (step env ⟨s, none⟩ pass).result = some (.error err) := by
  obtain ⟨parent, hparent⟩ := Path.parent_of_fileName hname
  have hno : ¬ SignatureBeside s.app.startup.configPath parent name s.app.setup.draft := by
    intro hbeside
    refine resolve_parent_ne hparent ?_ ?_ (hbeside _ hsigned).1
    · rw [presetSignature, hpreset]
      rfl
    · rw [presetSignature, hpreset]
      exact le_rfl
  obtain ⟨err, disk, herr, -⟩ := @refused_of_not_beside _ env.crates env.host pass.world.random _ _ _ _
    pass.world.disk pass.world.faults hparent hname hno
  have hfails : StepFails env pass.world s (.char 's') := by
    unfold StepFails
    rw [hmode]
    exact ⟨rfl, hscreen, hpage, Or.inr (Or.inl ⟨err, disk, herr⟩)⟩
  obtain ⟨err, t, hstep, -⟩ := step_of_fails hevent rfl hfails
  exact ⟨err, by rw [hstep]⟩

end Failures

/-- A terminal with an empty catalog. -/
def plainEnv : TuiEnv ℚ where
  texts := plainTexts
  crates := sampleCrates (canonicalStartupConfig ℚ) [] []
  host := sampleHost
  debugStr := id

/-- No bot is running, there is no audit database, and nothing on the disk. -/
def idleWorld : World where
  statusReply := .error "connection refused".toList
  stopReply := .error "connection refused".toList
  audit := .missing
  disk := Disk.blank
  faults := .none
  random := sampleRandom

/-- The session in the editor of `bot.max_count_cap`, with a text that is no number. -/
def badEdit : Session ℚ :=
  let app := (start plainEnv idleWorld .setup
    ⟨⟨canonicalStartupConfig ℚ, samplePath, [], none⟩, false, 250⟩ .english 0).session.app
  ⟨{ app with
      screen := .setup
      inputMode := .setupEdit .maxCountCap
      inputBuffer := "many".toList }, []⟩

/-- The key that submits it. -/
def submitPass : Pass := ⟨0, .error "connection refused".toList, 0, .press .enter false, idleWorld⟩

theorem failed_step_iff_badEdit :
    ((StepFails plainEnv submitPass.world badEdit .enter →
        GoesOnWithDraft plainEnv badEdit submitPass) ↔
        ¬ StepFails plainEnv submitPass.world badEdit .enter) ∧
      ((∃ err, (step plainEnv ⟨badEdit, none⟩ submitPass).result = some (.error err)) ↔
        StepFails plainEnv submitPass.world badEdit .enter) ∧
      (StepFails plainEnv submitPass.world badEdit .enter →
        (step plainEnv ⟨badEdit, none⟩ submitPass).session.app.setup.draft =
          badEdit.app.setup.draft) :=
  failed_step_iff plainEnv badEdit submitPass rfl rfl

/-- Submitting the text ends the session. -/
theorem bad_edit_ends_session :
    StepFails plainEnv submitPass.world badEdit .enter ∧
      (step plainEnv ⟨badEdit, none⟩ submitPass).result =
        some (.error "error.max_count_cap_usize".toList) ∧
      ¬ GoesOnWithDraft plainEnv badEdit submitPass := by
  have hresult : (step plainEnv ⟨badEdit, none⟩ submitPass).result =
      some (.error "error.max_count_cap_usize".toList) := rfl
  have hunreadable : parseUnsigned maxUsize "many".toList = none := by decide
  refine ⟨⟨rfl, by decide, hunreadable⟩, hresult, fun h => ?_⟩
  have hnone := h.1
  rw [hresult] at hnone
  cases hnone

end Tui

end OoBot
