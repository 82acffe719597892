import OoBot.Control.Messages
import OoBot.Lib.Runs
import OoBot.Tui.AuditView
import OoBot.Tui.Setup

/-!
# The operator's terminal

The state of the terminal of `src/operator_tui.rs`, the handlers of its keys and the loop of
`run_operator_tui`, with the requests of `src/control.rs` that they make.

* The handlers are programs on a `Session`: the app, and the requests that were made on the control
  socket.  A failure ends the loop.
* `TuiEnv` is what does not change while the terminal runs; `World` is what one pass of the loop finds
  outside: the answers on the control socket, the audit database, and the disk with its faults.
* What is only drawn is left out: the status of the LSM and of the hardening, the diagnostics, and the
  path of the socket.
-/

namespace OoBot

open Files

/-! ### The app -/

/-- `Screen`. -/
inductive Screen
  | welcome
  | dashboard
  | setup
  | diagnostics
  | audit
  deriving DecidableEq

/-- `OperatorTuiEntry`. -/
inductive OperatorTuiEntry
  | dashboard
  | setup
  | diagnostics
  | audit

/-- The screen of an entry. -/
def OperatorTuiEntry.screen : OperatorTuiEntry → Screen
  | .dashboard => .dashboard
  | .setup => .setup
  | .diagnostics => .diagnostics
  | .audit => .audit

/-- `OperatorTuiParams`. -/
structure OperatorTuiParams (F : Type) where
  startup : LoadedStartupConfig F
  startupCreated : Bool
  auditLimit : ℕ

/-- `InputMode`. -/
inductive InputMode
  | normal
  | setupEdit (field : SetupField)
  | auditSearch
  deriving DecidableEq

/-- `KeyCode`; the keys that no handler knows are `other`. -/
inductive KeyCode
  | char (c : Char)
  | enter
  | esc
  | backspace
  | left
  | right
  | up
  | down
  | other
  deriving DecidableEq

/-- `BotControlState`. -/
structure BotControlState where
  runtime : Option RuntimeControlStatus
  status : Text
  stopArmed : Bool

/-- `OperatorTuiApp`. -/
structure OperatorTuiApp (F : Type) where
  startup : LoadedStartupConfig F
  startupCreated : Bool
  savedConfig : Bool
  auditLimit : ℕ
  language : UiLanguage
  screen : Screen
  landingScreen : Screen
  inputMode : InputMode
  inputBuffer : Text
  status : Text
  lastControlRefresh : Instant
  control : BotControlState
  setup : SetupState F
  audit : AuditState

/-- The app, and the requests that it has made. -/
structure Session (F : Type) where
  app : OperatorTuiApp F
  requests : List ControlRequest

/-- What does not change while the terminal runs; `debugStr` is the `Debug` text of a `str`. -/
structure TuiEnv (F : Type) where
  texts : SetupTexts
  crates : Crates F
  host : Host
  debugStr : Text → Text

/-- What one pass of the loop finds outside: what `send_control_request` returns for a status and for a
stop, the audit database, and the disk with the faults of a call that writes to it. -/
structure World where
  statusReply : Except Text ControlResponse
  stopReply : Except Text ControlResponse
  audit : AuditDbReply
  disk : Disk
  faults : WriteConfigFaults
  random : Text

/-- `MAX_INPUT_BUFFER_LEN`. -/
def maxInputBufferLen : ℕ := 4096

/-- `MAX_AUDIT_SEARCH_LEN`. -/
def maxAuditSearchLen : ℕ := 256

/-- `CONTROL_STATUS_AUTO_REFRESH_INTERVAL`. -/
def controlStatusAutoRefreshInterval : Duration := fromMillis 2000

/-- The `Display` text of a `StartupConfigError`. -/
def StartupConfigError.text : StartupConfigError → Text
  | .readConfig msg => "failed to read config: ".toList ++ msg
  | .createConfigDir msg => "failed to create config directory: ".toList ++ msg
  | .writeConfig msg => "failed to write config: ".toList ++ msg
  | .tooLarge => "config too large".toList
  | .parseConfig msg => "failed to parse config: ".toList ++ msg
  | .validate msg => "invalid config: ".toList ++ msg
  | .signature msg => "failed to verify config signature: ".toList ++ msg

/-- What a handler does to a session. -/
abbrev SessionM (F α : Type) : Type := EStateM Text (Session F) α

namespace Tui

variable {F : Type} (env : TuiEnv F) (world : World)

/-! ### What the handlers are made of -/

/-- Change the app. -/
def update (f : OperatorTuiApp F → OperatorTuiApp F) : SessionM F PUnit :=
  modify fun s => { s with app := f s.app }

/-- Change the setup screen. -/
def updateSetup (f : SetupState F → SetupState F) : SessionM F PUnit :=
  update fun app => { app with setup := f app.setup }

/-- Set the status to a text of the catalog. -/
def say (key : String) (replacements : List (String × Text)) : SessionM F PUnit :=
  update fun app => { app with status := template env.texts.catalog app.language key replacements }

/-- Make a request on the control socket. -/
def request (r : ControlRequest) : SessionM F PUnit :=
  modify fun s => { s with requests := s.requests ++ [r] }

/-- The state of the bot as an answer on the control socket tells it. -/
def controlState (catalog : UiCatalog) (reply : Except Text ControlResponse)
    (language : UiLanguage) : BotControlState :=
  match requestRuntimeStatus reply with
  | .ok runtime => ⟨some runtime, label catalog language "control.status.connected", false⟩
  | .error err => ⟨none, template catalog language "control.status.unavailable" [("error", err)], false⟩

/-- `load_control_state`. -/
def loadControlState : SessionM F BotControlState := do
  request .status
  pure (controlState env.texts.catalog world.statusReply (← get).app.language)

/-- Load the state of the bot again; a stop is not armed then. -/
def reloadControl : SessionM F PUnit := do
  let control ← loadControlState env world
  update fun app => { app with control := control }

/-- `refresh_control_state`. -/
def refreshControlState : SessionM F PUnit := do
  let stopArmed := (← get).app.control.stopArmed
  let control ← loadControlState env world
  update fun app => { app with control := { control with stopArmed := stopArmed } }

/-- Load the audit screen again. -/
def reloadAudit : SessionM F PUnit :=
  update fun app =>
    { app with
      audit := loadAuditState env.texts.catalog world.audit app.startup app.auditLimit app.language }

/-- `relocalize_app`. -/
def relocalizeApp : SessionM F PUnit := do
  refreshControlState env world
  reloadAudit env world

/-- `refresh_runtime_snapshot`. -/
def refreshRuntimeSnapshot : SessionM F PUnit := do
  refreshControlState env world
  reloadAudit env world

/-- Switch to a language. -/
def chooseLanguage (language : UiLanguage) : SessionM F PUnit := do
  update fun app => { app with language := language }
  relocalizeApp env world
  update fun app => { app with status := languageSwitchedMessage env.texts.catalog app.language }

/-- `toggle_language`, and the message. -/
def toggleLanguage : SessionM F PUnit := do
  match (← get).app.language with
  | .english => chooseLanguage env world .japanese
  | .japanese => chooseLanguage env world .english

/-! ### The keys of the screens -/

/-- `handle_welcome_keys`. -/
def handleWelcomeKeys (code : KeyCode) : SessionM F Bool :=
  match code with
  | .char 'q' => pure true
  | .char 'e' | .left => do
      chooseLanguage env world .english
      pure false
  | .char 'j' | .right => do
      chooseLanguage env world .japanese
      pure false
  | .char 'l' => do
      toggleLanguage env world
      pure false
  | .enter => do
      update fun app =>
        { app with
          screen := app.landingScreen
          status := defaultStatusMessage env.texts.catalog app.startupCreated app.language }
      pure false
  | _ => pure false

/-- The disk after a call that writes, or the text of its error. -/
def writtenDisk : EStateM.Result StartupConfigError Disk Unit → Except Text Disk
  | .ok _ disk => .ok disk
  | .error err _ => .error err.text

/-- Validate the draft, write it and load it again. -/
def saveDraft (path : Path) (draft : StartupConfig F) : Except Text (LoadedStartupConfig F) := do
  (validateConfig draft).mapError fun err => (StartupConfigError.validate err.msg).text
  let disk ← writtenDisk (writeStartupConfigToPath env.crates env.host world.faults world.random path
    draft world.disk)
  (loadStartupConfigFromPath env.crates env.host disk path).mapError StartupConfigError.text

/-- The key `s` of the setup screen. -/
def saveSetup : SessionM F PUnit := do
  let app := (← get).app
  if app.setup.page ≠ .preview then say env "status.move_preview" []
  else
    let startup ← ofExcept (saveDraft env world app.startup.configPath app.setup.draft)
    update fun app => { app with startup := startup }
    reloadControl env world
    reloadAudit env world
    update fun app => { app with savedConfig := true }
    say env "status.saved" [("path", env.texts.display startup.configPath)]

/-- Do something about the selected field, if there is one. -/
def withSelectedField (f : SetupField → SessionM F PUnit) : SessionM F PUnit := do
  match selectedSetupField (← get).app.setup with
  | some field => f field
  | none => pure ()

/-- `handle_setup_normal_keys`. -/
def handleSetupNormalKeys (code : KeyCode) : SessionM F PUnit :=
  match code with
  | .left =>
      updateSetup fun setup => { setup with page := previousSetupPage setup.page, selected := 0 }
  | .right => updateSetup fun setup => { setup with page := nextSetupPage setup.page, selected := 0 }
  | .char 'p' => updateSetup fun setup => { setup with page := .preview }
  | .up => updateSetup fun setup => { setup with selected := setup.selected - 1 }
  | .down =>
      updateSetup fun setup =>
        if setup.selected + 1 < (setupFieldsForPage setup.page).length then
          { setup with selected := setup.selected + 1 }
        else setup
  | .char 'd' =>
      withSelectedField fun field => do
        updateSetup fun setup => restoreDefaultForField setup field
        say env "status.restore_default" [("field", setupFieldLabel field)]
  | .enter | .char 'e' =>
      withSelectedField fun field =>
        update fun app => { app with inputMode := .setupEdit field, inputBuffer := [] }
  | .char ' ' =>
      withSelectedField fun field =>
        updateSetup fun setup => cycleFieldValue env.texts setup field
  | .char 's' => saveSetup env world
  | _ => pure ()

/-- `handle_audit_normal_keys`. -/
def handleAuditNormalKeys (code : KeyCode) : SessionM F PUnit :=
  match code with
  | .char '/' =>
      update fun app => { app with inputMode := .auditSearch, inputBuffer := app.audit.search }
  | .char 'o' =>
      update fun app => { app with audit := { app.audit with sort := nextAuditSort app.audit.sort } }
  | .char 'm' =>
      update fun app =>
        { app with audit := { app.audit with modeFilter := nextModeFilter app.audit.modeFilter } }
  | .char 'r' => reloadAudit env world
  | _ => pure ()

/-! ### The keys of every screen -/

/-- The key `x`. -/
def handleStopKey : SessionM F PUnit := do
  if (← get).app.control.stopArmed then
    request (.stop "tui".toList)
    update fun app => { app with control := { app.control with stopArmed := false } }
    refreshControlState env world
    match requestRuntimeStop world.stopReply with
    | .ok message => say env "status.stop_requested" [("message", message)]
    | .error err => say env "status.stop_failed" [("error", err)]
  else
    update fun app => { app with control := { app.control with stopArmed := true } }
    say env "status.stop_confirm" []

/-- The keys that choose a language or a screen. -/
def handleNavigationKeys (code : KeyCode) : SessionM F PUnit :=
  match code with
  | .char 'l' => toggleLanguage env world
  | .char 'R' => do
      refreshRuntimeSnapshot env world
      say env "status.runtime_refreshed" []
  | .char '1' => update fun app => { app with screen := .dashboard }
  | .char '2' => update fun app => { app with screen := .setup }
  | .char '3' => update fun app => { app with screen := .diagnostics }
  | .char '4' => update fun app => { app with screen := .audit }
  | _ => pure ()

/-- The keys of the screen that is then shown. -/
def handleScreenKeys (code : KeyCode) : SessionM F PUnit := do
  match (← get).app.screen with
  | .setup => handleSetupNormalKeys env world code
  | .audit => handleAuditNormalKeys env world code
  | .welcome | .dashboard | .diagnostics => pure ()

/-- A key that neither stops the bot nor ends the loop. -/
def handleOtherKeys (code : KeyCode) : SessionM F Bool := do
  handleNavigationKeys env world code
  update fun app => { app with control := { app.control with stopArmed := false } }
  handleScreenKeys env world code
  pure false

/-- The keys of every screen but the first. -/
def handleCommonKeys (code : KeyCode) : SessionM F Bool :=
  match code with
  | .char 'x' => do
      handleStopKey env world
      pure false
  | .esc => do
      if (← get).app.control.stopArmed then
        update fun app => { app with control := { app.control with stopArmed := false } }
        say env "status.stop_cancelled" []
        pure false
      else handleOtherKeys env world code
  | .char 'q' => pure true
  | _ => handleOtherKeys env world code

/-- `handle_global_keys`. -/
def handleGlobalKeys (code : KeyCode) : SessionM F Bool := do
  if (← get).app.screen = .welcome then handleWelcomeKeys env world code
  else handleCommonKeys env world code

/-! ### The keys of the editors -/

/-- A key that edits the buffer. -/
def editBuffer (code : KeyCode) : SessionM F PUnit :=
  match code with
  | .backspace => update fun app => { app with inputBuffer := app.inputBuffer.dropLast }
  | .char ch =>
      update fun app =>
        if utf8Len app.inputBuffer < maxInputBufferLen then
          { app with inputBuffer := app.inputBuffer ++ [ch] }
        else app
  | _ => pure ()

/-- `handle_setup_edit_keys`. -/
def handleSetupEditKeys (field : SetupField) (code : KeyCode) : SessionM F Bool :=
  match code with
  | .esc => pure true
  | .enter => do
      let app := (← get).app
      let setup ← ofExcept
        (applyCustomFieldInput env.texts app.setup field app.inputBuffer app.language)
      update fun app => { app with setup := setup }
      say env "status.updated" [("field", setupFieldLabel field)]
      update fun app => { app with inputBuffer := [] }
      pure true
  | _ => do
      editBuffer code
      pure false

/-- `handle_audit_search_keys`. -/
def handleAuditSearchKeys (code : KeyCode) : SessionM F Bool :=
  match code with
  | .esc => pure true
  | .enter => do
      update fun app =>
        { app with
          audit := { app.audit with search := (trim app.inputBuffer).take maxAuditSearchLen } }
      let search := (← get).app.audit.search
      say env "status.audit_search_updated" [("search", env.debugStr search)]
      pure true
  | _ => do
      editBuffer code
      pure false

/-- Leave an editor that is done. -/
def leaveEditor (isDone : Bool) : SessionM F Bool := do
  if isDone then update fun app => { app with inputMode := .normal }
  pure false

/-- The handler of a key in a mode; `true` ends the loop. -/
def handlerIn (code : KeyCode) : InputMode → SessionM F Bool
  | .normal => handleGlobalKeys env world code
  | .setupEdit field => do
      let isDone ← handleSetupEditKeys env field code
      leaveEditor isDone
  | .auditSearch => do
      let isDone ← handleAuditSearchKeys env code
      leaveEditor isDone

/-- The handler of a key in the mode in which it finds the app. -/
def dispatch (code : KeyCode) : SessionM F Bool := do
  handlerIn env world code (← get).app.inputMode

/-! ### The loop -/

/-- What a pass of the loop gets from the terminal. -/
inductive TerminalEvent
  /-- Drawing, polling or reading fails. -/
  | failed (err : Text)
  /-- Nothing happens, or no key is pressed. -/
  | nothing
  | press (code : KeyCode) (control : Bool)

/-- One pass of the loop: the time at its start and after a refresh, what the refresh gets, the event,
and what its key finds. -/
structure Pass where
  now : Instant
  refreshReply : Except Text ControlResponse
  refreshedAt : Instant
  event : TerminalEvent
  world : World

/-- The loop: its session, and what it has returned. -/
structure Loop (F : Type) where
  session : Session F
  /-- `saved_config` of an `OperatorTuiResult`, or an error. -/
  result : Option (Except Text Bool)

/-- `is_force_quit_key`. -/
def isForceQuitKey (code : KeyCode) (control : Bool) : Bool :=
  code == .char 'Q' || ((code == .char 'c' || code == .char 'C') && control)

/-- `should_auto_refresh_control`. -/
def shouldAutoRefreshControl (app : OperatorTuiApp F) (now : Instant) : Bool :=
  app.inputMode == .normal && (app.screen == .dashboard || app.screen == .diagnostics) &&
    decide (controlStatusAutoRefreshInterval ≤ durationSince now app.lastControlRefresh)

/-- The session after the refresh that a pass starts with. -/
def refreshed (session : Session F) (pass : Pass) : Session F :=
  if shouldAutoRefreshControl session.app pass.now then
    Fallible.after ((do
      refreshControlState env { pass.world with statusReply := pass.refreshReply }
      update fun app => { app with lastControlRefresh := pass.refreshedAt } : SessionM F PUnit)
      session)
  else session

/-- The loop after a key was handled. -/
def handled : EStateM.Result Text (Session F) Bool → Loop F
  | .ok true session => ⟨session, some (.ok session.app.savedConfig)⟩
  | .ok false session => ⟨session, none⟩
  | .error err session => ⟨session, some (.error err)⟩

/-- One pass of the loop. -/
def step (l : Loop F) (pass : Pass) : Loop F :=
  match l.result with
  | some _ => l
  | none =>
      let session := refreshed env l.session pass
      match pass.event with
      | .failed err => ⟨session, some (.error err)⟩
      | .nothing => ⟨session, none⟩
      | .press code control =>
          if isForceQuitKey code control then ⟨session, some (.ok session.app.savedConfig)⟩
          else handled (dispatch env pass.world code session)

/-- The loop of `run_operator_tui` before its first pass. -/
def start [F64 F] (entry : OperatorTuiEntry) (params : OperatorTuiParams F)
    (language : UiLanguage) (now : Instant) : Loop F where
  session :=
    { app :=
        { startup := params.startup
          startupCreated := params.startupCreated
          savedConfig := false
          auditLimit := params.auditLimit
          language := language
          screen := .welcome
          landingScreen := entry.screen
          inputMode := .normal
          inputBuffer := []
          status := defaultStatusMessage env.texts.catalog params.startupCreated language
          lastControlRefresh := now
          control := controlState env.texts.catalog world.statusReply language
          setup :=
            { draft := params.startup.app
              defaults := canonicalStartupConfig F
              page := if params.startupCreated then .detector else .preview
              selected := 0 }
          audit := loadAuditState env.texts.catalog world.audit params.startup params.auditLimit
            language }
      requests := [.status] }
  result := none

end Tui

end OoBot
