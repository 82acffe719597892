import OoBot.Tui.App

/-!
# Two presses stop the bot

A key `x` arms the stop, and the next key requests it or disarms it (`dispatch_stop_cases`).  While the
stop is armed, the last key was an `x` that armed it, and the loop is where an `x` is a stop key
(`ArmedBy`); so in every run a stop takes two such keys in a row (`stop_takes_two_presses`).
-/

namespace OoBot

open Fallible

namespace Tui

/-- How many stops were requested. -/
def stopCount (requests : List ControlRequest) : ℕ :=
  requests.countP fun r =>
    match r with
    | .status => false
    | .stop _ => true

section Views

variable {F : Type} {env : TuiEnv F} {world : World}

/-- Whether the stop is armed, and how many stops were requested. -/
def stopView (s : Session F) : Bool × ℕ := (s.app.control.stopArmed, stopCount s.requests)

theorem stopCount_append_status (requests : List ControlRequest) :
    stopCount (requests ++ [.status]) = stopCount requests := by
  unfold stopCount
  rw [List.countP_append]
  rfl

theorem stopCount_append_stop (requests : List ControlRequest) (source : Text) :
    stopCount (requests ++ [.stop source]) = stopCount requests + 1 := by
  unfold stopCount
  rw [List.countP_append]
  rfl

/-! ### What leaves the stop alone -/

theorem keeps_update {f : OperatorTuiApp F → OperatorTuiApp F}
    (h : ∀ app, (f app).control = app.control) : Keeps stopView (update f) :=
  Keeps.modify fun s => by
    unfold stopView
    rw [h]

theorem keeps_updateSetup {f : SetupState F → SetupState F} : Keeps stopView (updateSetup f) :=
  keeps_update fun _ => rfl

theorem keeps_say {key : String} {replacements : List (String × Text)} :
    Keeps stopView (say env key replacements) :=
  keeps_update fun _ => rfl

theorem keeps_reloadAudit : Keeps stopView (reloadAudit env world) := keeps_update fun _ => rfl

/-- A refresh puts the flag back. -/
theorem keeps_refreshControlState : Keeps stopView (refreshControlState env world) := fun s =>
  congrArg (Prod.mk s.app.control.stopArmed) (stopCount_append_status s.requests)

theorem keeps_chooseLanguage {language : UiLanguage} :
    Keeps stopView (chooseLanguage env world language) :=
  Keeps.bind (keeps_update fun _ => rfl) fun _ =>
    Keeps.bind (Keeps.bind keeps_refreshControlState fun _ => keeps_reloadAudit) fun _ =>
      keeps_update fun _ => rfl

theorem keeps_toggleLanguage : Keeps stopView (toggleLanguage env world) := by
  refine Keeps.bind Keeps.get fun s => ?_
  cases s.app.language <;> exact keeps_chooseLanguage

theorem keeps_handleWelcomeKeys {code : KeyCode} :
    Keeps stopView (handleWelcomeKeys env world code) := by
  unfold handleWelcomeKeys
  split
  · exact Keeps.pure _
  · exact Keeps.bind keeps_chooseLanguage fun _ => Keeps.pure _
  · exact Keeps.bind keeps_chooseLanguage fun _ => Keeps.pure _
  · exact Keeps.bind keeps_chooseLanguage fun _ => Keeps.pure _
  · exact Keeps.bind keeps_chooseLanguage fun _ => Keeps.pure _
  · exact Keeps.bind keeps_toggleLanguage fun _ => Keeps.pure _
  · exact Keeps.bind (keeps_update fun _ => rfl) fun _ => Keeps.pure _
  · exact Keeps.pure _

theorem keeps_handleNavigationKeys {code : KeyCode} :
    Keeps stopView (handleNavigationKeys env world code) := by
  unfold handleNavigationKeys
  split
  · exact keeps_toggleLanguage
  · exact Keeps.bind (Keeps.bind keeps_refreshControlState fun _ => keeps_reloadAudit) fun _ =>
      keeps_say
  all_goals exact keeps_update fun _ => rfl

theorem keeps_handleAuditNormalKeys {code : KeyCode} :
    Keeps stopView (handleAuditNormalKeys env world code) := by
  unfold handleAuditNormalKeys
  split
  all_goals exact keeps_update fun _ => rfl

theorem keeps_editBuffer {code : KeyCode} : Keeps (stopView (F := F)) (editBuffer code) := by
  unfold editBuffer
  split
  · exact keeps_update fun _ => rfl
  · refine keeps_update fun app => ?_
    split_ifs <;> rfl
  · exact Keeps.pure _

theorem keeps_handleSetupEditKeys {field : SetupField} {code : KeyCode} :
    Keeps stopView (handleSetupEditKeys env field code) := by
  unfold handleSetupEditKeys
  split
  · exact Keeps.pure _
  · refine Keeps.bind Keeps.get fun s => Keeps.bind (Keeps.ofExcept _) fun setup => ?_
    exact Keeps.bind (keeps_update fun _ => rfl) fun _ => Keeps.bind keeps_say fun _ =>
      Keeps.bind (keeps_update fun _ => rfl) fun _ => Keeps.pure _
  · exact Keeps.bind keeps_editBuffer fun _ => Keeps.pure _

theorem keeps_handleAuditSearchKeys {code : KeyCode} :
    Keeps stopView (handleAuditSearchKeys env code) := by
  unfold handleAuditSearchKeys
  split
  · exact Keeps.pure _
  · exact Keeps.bind (keeps_update fun _ => rfl) fun _ => Keeps.bind Keeps.get fun s =>
      Keeps.bind keeps_say fun _ => Keeps.pure _
  · exact Keeps.bind keeps_editBuffer fun _ => Keeps.pure _

theorem keeps_leaveEditor {isDone : Bool} : Keeps (stopView (F := F)) (leaveEditor isDone) := by
  cases isDone
  · exact Keeps.pure _
  · exact Keeps.bind (keeps_update fun _ => rfl) fun _ => Keeps.pure _

/-! ### What one key does -/

/-- Not armed, with `k` stops requested so far. -/
def Disarmed (k : ℕ) (s : Session F) : Prop := stopView s = (false, k)

theorem leaves_reloadControl {k : ℕ} : Leaves (Disarmed k) (reloadControl env world) := by
  intro s hs
  have hcount : stopCount s.requests = k := congrArg Prod.snd hs
  refine Prod.ext ?_ ((stopCount_append_status s.requests).trans hcount)
  show (controlState env.texts.catalog world.statusReply s.app.language).stopArmed = false
  unfold controlState
  cases requestRuntimeStatus world.statusReply <;> rfl

/-- A saved configuration brings a control state that is not armed. -/
theorem leaves_saveSetup {k : ℕ} : Leaves (Disarmed k) (saveSetup env world) := by
  refine Leaves.bind Leaves.get fun s => ?_
  show Leaves _ (if s.app.setup.page ≠ .preview then _ else _)
  split_ifs
  · exact Leaves.of_keeps keeps_say
  · refine Leaves.bind (Leaves.ofExcept _) fun startup => ?_
    refine Leaves.bind (Leaves.of_keeps (keeps_update fun _ => rfl)) fun _ => ?_
    refine Leaves.bind leaves_reloadControl fun _ => ?_
    exact Leaves.of_keeps (Keeps.bind keeps_reloadAudit fun _ =>
      Keeps.bind (keeps_update fun _ => rfl) fun _ => keeps_say)

theorem keeps_withSelectedField {f : SetupField → SessionM F PUnit}
    (h : ∀ field, Keeps stopView (f field)) : Keeps stopView (withSelectedField f) := by
  refine Keeps.bind Keeps.get fun s => ?_
  cases selectedSetupField s.app.setup with
  | some field => exact h field
  | none => exact Keeps.pure _

theorem leaves_handleSetupNormalKeys {k : ℕ} {code : KeyCode} :
    Leaves (Disarmed k) (handleSetupNormalKeys env world code) := by
  unfold handleSetupNormalKeys
  split
  case h_6 =>
    exact Leaves.of_keeps (keeps_withSelectedField fun _ =>
      Keeps.bind keeps_updateSetup fun _ => keeps_say)
  case h_7 | h_8 =>
    exact Leaves.of_keeps (keeps_withSelectedField fun _ => keeps_update fun _ => rfl)
  case h_9 => exact Leaves.of_keeps (keeps_withSelectedField fun _ => keeps_updateSetup)
  case h_10 => exact leaves_saveSetup
  case h_11 => exact Leaves.pure _
  all_goals exact Leaves.of_keeps keeps_updateSetup

theorem leaves_handleScreenKeys {k : ℕ} {code : KeyCode} :
    Leaves (Disarmed k) (handleScreenKeys env world code) := by
  refine Leaves.bind Leaves.get fun s => ?_
  cases s.app.screen with
  | setup => exact leaves_handleSetupNormalKeys
  | audit => exact Leaves.of_keeps keeps_handleAuditNormalKeys
  | welcome | dashboard | diagnostics => exact Leaves.pure _

theorem total_toggleLanguage : Total (toggleLanguage env world) := by
  refine Total.bind Total.get fun s => ?_
  cases s.app.language <;> exact fun _ => ⟨_, _, rfl⟩

theorem total_handleNavigationKeys {code : KeyCode} :
    Total (handleNavigationKeys env world code) := by
  unfold handleNavigationKeys
  split
  · exact total_toggleLanguage
  all_goals exact fun _ => ⟨_, _, rfl⟩

/-- The other keys request no stop, and disarm it before they reach the screen. -/
theorem handleOtherKeys_disarms (s : Session F) (code : KeyCode) :
    Disarmed (stopCount s.requests) (after (handleOtherKeys env world code s)) := by
  obtain ⟨_, t, ht⟩ := @total_handleNavigationKeys _ env world code s
  have hkeeps := @keeps_handleNavigationKeys _ env world code s
  rw [ht] at hkeeps
  unfold handleOtherKeys
  rw [bind_of_ok ht]
  refine (Leaves.bind leaves_handleScreenKeys fun _ => Leaves.pure _)
    { t with app := { t.app with control := { t.app.control with stopArmed := false } } } ?_
  exact congrArg (fun v => (false, v.2)) hkeeps

/-- The first press arms the stop where it is. -/
theorem handleStopKey_arms {s : Session F} (h : s.app.control.stopArmed = false) :
    ∃ t, handleStopKey env world s = .ok ⟨⟩ t ∧ stopView t = (true, stopCount s.requests) ∧
      t.app.inputMode = s.app.inputMode ∧ t.app.screen = s.app.screen := by
  have hpress : handleStopKey env world s = (do
      update fun app => { app with control := { app.control with stopArmed := true } }
      say env "status.stop_confirm" [] : SessionM F PUnit) s := by
    show (if s.app.control.stopArmed then _ else _ : SessionM F PUnit) s = _
    rw [h]
    rfl
  rw [hpress]
  exact ⟨_, rfl, rfl, rfl, rfl⟩

/-- The second press requests it, whatever the answer is. -/
theorem handleStopKey_requests {s : Session F} (h : s.app.control.stopArmed = true) :
    ∃ t, handleStopKey env world s = .ok ⟨⟩ t ∧ Disarmed (stopCount s.requests + 1) t := by
  have hcount : stopCount (s.requests ++ [.stop "tui".toList] ++ [.status]) =
      stopCount s.requests + 1 := by
    rw [stopCount_append_status, stopCount_append_stop]
  unfold handleStopKey
  rw [get_bind, if_pos h]
  cases requestRuntimeStop world.stopReply with
  | ok message => exact ⟨_, rfl, congrArg (Prod.mk false) hcount⟩
  | error err => exact ⟨_, rfl, congrArg (Prod.mk false) hcount⟩

/-- The key is an `x` that is neither on the welcome screen nor in an editor. -/
def IsStopKey (s : Session F) (code : KeyCode) : Prop :=
  s.app.inputMode = .normal ∧ s.app.screen ≠ .welcome ∧ code = .char 'x'

/-- A stop is armed only where `x` is a stop key. -/
def ArmedThere (s : Session F) : Prop :=
  s.app.control.stopArmed = true → s.app.inputMode = .normal ∧ s.app.screen ≠ .welcome

/-- In an editor no key touches the stop. -/
theorem dispatch_of_editor {s : Session F} (h : s.app.inputMode ≠ .normal) (code : KeyCode) :
    stopView (after (dispatch env world code s)) = stopView s := by
  show stopView (after (handlerIn env world code s.app.inputMode s)) = _
  cases hmode : s.app.inputMode with
  | normal => exact absurd hmode h
  | setupEdit field => exact Keeps.bind keeps_handleSetupEditKeys (fun _ => keeps_leaveEditor) s
  | auditSearch => exact Keeps.bind keeps_handleAuditSearchKeys (fun _ => keeps_leaveEditor) s

/-- A key that is no `x` disarms the stop, or ends the loop. -/
theorem handleCommonKeys_disarms (s : Session F) {code : KeyCode} (hcode : code ≠ .char 'x') :
    Disarmed (stopCount s.requests) (after (handleCommonKeys env world code s)) ∨
      handleCommonKeys env world code s = .ok true s := by
  unfold handleCommonKeys
  split
  · exact absurd rfl hcode
  · left
    show Disarmed _ (after ((if s.app.control.stopArmed then _ else _ : SessionM F Bool) s))
    split_ifs
    · exact rfl
    · exact handleOtherKeys_disarms s _
  · exact Or.inr rfl
  · exact Or.inl (handleOtherKeys_disarms s code)

/-- **What a key does to the stop.**  The stop key arms it, or requests it if it was armed; every other
key requests none, and leaves it disarmed unless it ends the loop. -/
theorem dispatch_stop_cases {s : Session F} (hs : ArmedThere s) (code : KeyCode) :
    (IsStopKey s code ∧ s.app.control.stopArmed = false ∧ ∃ t, dispatch env world code s = .ok false t ∧
        stopView t = (true, stopCount s.requests) ∧ ArmedThere t) ∨
      (IsStopKey s code ∧ s.app.control.stopArmed = true ∧ ∃ t,
        dispatch env world code s = .ok false t ∧ Disarmed (stopCount s.requests + 1) t) ∨
      (¬ IsStopKey s code ∧ (Disarmed (stopCount s.requests) (after (dispatch env world code s)) ∨
        dispatch env world code s = .ok true s)) := by
  -- where `x` is no stop key the stop is not armed
  have hquiet (h : ¬ (s.app.inputMode = .normal ∧ s.app.screen ≠ .welcome)) :
      stopView s = (false, stopCount s.requests) :=
    Prod.ext (Bool.eq_false_iff.2 fun harmed => h (hs harmed)) rfl
  by_cases hmode : s.app.inputMode = .normal
  · have hdispatch : dispatch env world code s = handleGlobalKeys env world code s := by
      show handlerIn env world code s.app.inputMode s = _
      rw [hmode]
      rfl
    have hglobal : handleGlobalKeys env world code s =
        (if s.app.screen = .welcome then handleWelcomeKeys env world code
          else handleCommonKeys env world code) s := rfl
    rw [hdispatch, hglobal]
    by_cases hscreen : s.app.screen = .welcome
    · rw [if_pos hscreen]
      refine .inr (.inr ⟨fun h => h.2.1 hscreen, Or.inl ?_⟩)
      exact (keeps_handleWelcomeKeys s).trans (hquiet fun h => h.2 hscreen)
    · rw [if_neg hscreen]
      by_cases hcode : code = .char 'x'
      · subst hcode
        cases harmed : s.app.control.stopArmed with
        | false =>
          obtain ⟨t, ht, hview, hmode', hscreen'⟩ := @handleStopKey_arms _ env world s harmed
          refine .inl ⟨⟨hmode, hscreen, rfl⟩, rfl, t, bind_of_ok ht, hview, fun _ => ?_⟩
          exact ⟨hmode'.trans hmode, fun h => hscreen (hscreen'.symm.trans h)⟩
        | true =>
          obtain ⟨t, ht, hview⟩ := @handleStopKey_requests _ env world s harmed
          exact .inr (.inl ⟨⟨hmode, hscreen, rfl⟩, rfl, t, bind_of_ok ht, hview⟩)
      · exact .inr (.inr ⟨fun h => hcode h.2.2, handleCommonKeys_disarms s hcode⟩)
  · refine .inr (.inr ⟨fun h => hmode h.1, Or.inl ?_⟩)
    exact (dispatch_of_editor hmode code).trans (hquiet fun h => hmode h.1)

end Views

/-! ### Runs -/

/-- A key that was given to a handler: the session that it found, and what came of it. -/
structure HandledKey (F : Type) where
  code : KeyCode
  before : Session F
  result : EStateM.Result Text (Session F) Bool

namespace HandledKey

variable {F : Type} (key : HandledKey F)

/-- The key is an `x` that is neither on the welcome screen nor in an editor. -/
def IsStopKey : Prop := Tui.IsStopKey key.before key.code

/-- A stop was requested at the key. -/
def sendsStop : Bool :=
  decide (stopCount key.before.requests < stopCount (after key.result).requests)

/-- The stop is armed after the key. -/
def leavesArmed : Bool := (after key.result).app.control.stopArmed

/-- The key is a stop key that armed the stop and did not request it. -/
def Arms : Prop :=
  key.IsStopKey ∧ key.before.app.control.stopArmed = false ∧ key.leavesArmed = true ∧
    key.sendsStop = false

/-- The loop goes on after the key. -/
def GoesOn : Prop := ∃ s, key.result = .ok false s

end HandledKey

section Runs

variable {F : Type} (env : TuiEnv F)

/-- The key that a pass gives to a handler. -/
def handledKey (l : Loop F) (pass : Pass) : Option (HandledKey F) :=
  match l.result, pass.event with
  | none, .press code control =>
      if isForceQuitKey code control then none
      else
        let session := refreshed env l.session pass
        some ⟨code, session, dispatch env pass.world code session⟩
  | _, _ => none

/-- The keys of a run, in their order. -/
def handledKeys (l : Loop F) (passes : List Pass) : List (HandledKey F) :=
  Runs.trace (step env) (handledKey env) l passes

/-- A stop takes two presses: a key that requests one is a stop key right after one that armed the
stop; the other keys leave it disarmed, if the loop goes on; and no stop is requested but at a key. -/
structure TwoPresses (keys : List (HandledKey F)) (requests : List ControlRequest) : Prop where
  second : ∀ before key later, keys = before ++ key :: later → key.sendsStop = true →
    key.IsStopKey ∧ ∃ front first, before = front ++ [first] ∧ first.Arms
  disarmed : ∀ key ∈ keys, ¬ key.IsStopKey → key.GoesOn → key.leavesArmed = false
  atKeys : stopCount requests = keys.countP HandledKey.sendsStop

/-- While the loop runs, a stop is armed only where `x` is a stop key, and by the last key. -/
structure ArmedBy (keys : List (HandledKey F)) (l : Loop F) : Prop where
  presses : TwoPresses keys l.session.requests
  there : l.result = none → ArmedThere l.session
  last : l.result = none → l.session.app.control.stopArmed = true →
    ∃ front first, keys = front ++ [first] ∧ first.Arms

variable {env} {keys : List (HandledKey F)} {key : HandledKey F} {l : Loop F}
  {requests requests' : List ControlRequest}

theorem TwoPresses.concat (h : TwoPresses keys requests)
    (hsecond : key.sendsStop = true →
      key.IsStopKey ∧ ∃ front first, keys = front ++ [first] ∧ first.Arms)
    (hdisarmed : ¬ key.IsStopKey → key.GoesOn → key.leavesArmed = false)
    (hcount : stopCount requests' = stopCount requests + if key.sendsStop then 1 else 0) :
    TwoPresses (keys ++ [key]) requests' where
  second := by
    intro before key' later heq hsends
    rcases List.eq_nil_or_concat' later with rfl | ⟨later, last, rfl⟩
    · obtain ⟨rfl, hkey⟩ := List.append_inj' heq rfl
      cases hkey
      exact hsecond hsends
    · rw [← List.cons_append, ← List.append_assoc] at heq
      obtain ⟨rfl, -⟩ := List.append_inj' heq rfl
      exact h.second before key' later rfl hsends
  disarmed := by
    intro key' hmem hstop hgoes
    rcases List.mem_append.1 hmem with hmem | hmem
    · exact h.disarmed key' hmem hstop hgoes
    · rw [List.mem_singleton.1 hmem] at hstop hgoes ⊢
      exact hdisarmed hstop hgoes
  atKeys := by
    rw [hcount, h.atKeys, List.countP_append, List.countP_singleton]

/-- The refresh at the start of a pass leaves the stop where it is. -/
theorem refreshed_facts (s : Session F) (pass : Pass) :
    stopView (refreshed env s pass) = stopView s ∧
      (refreshed env s pass).app.inputMode = s.app.inputMode ∧
      (refreshed env s pass).app.screen = s.app.screen := by
  unfold refreshed
  split_ifs
  · exact ⟨Keeps.bind keeps_refreshControlState (fun _ => keeps_update fun _ => rfl) s, rfl, rfl⟩
  · exact ⟨rfl, rfl, rfl⟩

theorem ArmedBy.refreshed (h : ArmedBy keys l) (hresult : l.result = none) (pass : Pass) :
    ArmedBy keys ⟨refreshed env l.session pass, none⟩ := by
  obtain ⟨hview, hmode, hscreen⟩ := @refreshed_facts _ env l.session pass
  have harmed : (Tui.refreshed env l.session pass).app.control.stopArmed =
      l.session.app.control.stopArmed := congrArg Prod.fst hview
  have hcount : stopCount (Tui.refreshed env l.session pass).requests =
      stopCount l.session.requests := congrArg Prod.snd hview
  refine ⟨⟨h.presses.second, h.presses.disarmed, hcount.trans h.presses.atKeys⟩, fun _ h' => ?_,
    fun _ h' => h.last hresult (harmed.symm.trans h')⟩
  show (Tui.refreshed env l.session pass).app.inputMode = _ ∧
    (Tui.refreshed env l.session pass).app.screen ≠ _
  rw [hmode, hscreen]
  exact h.there hresult (harmed.symm.trans h')

/-- Once the loop has returned, nothing is left to show but the keys. -/
theorem ArmedBy.of_returned {s : Session F} {r : Except Text Bool} (h : TwoPresses keys s.requests) :
    ArmedBy keys ⟨s, some r⟩ := ⟨h, nofun, nofun⟩

theorem handled_session (r : EStateM.Result Text (Session F) Bool) :
    (handled r).session = after r := by
  cases r with
  | ok isDone s => cases isDone <;> rfl
  | error err s => rfl

theorem sendsStop_of_count {s : Session F} {code : KeyCode}
    {r : EStateM.Result Text (Session F) Bool}
    (h : stopCount (after r).requests = stopCount s.requests) :
    (HandledKey.mk code s r).sendsStop = false := by
  show decide (stopCount s.requests < stopCount (after r).requests) = false
  rw [h]
  exact decide_eq_false (lt_irrefl _)

/-- A key that requests no stop. -/
theorem TwoPresses.concat_quiet {s : Session F} (h : TwoPresses keys s.requests) {code : KeyCode}
    {r : EStateM.Result Text (Session F) Bool}
    (hcount : stopCount (after r).requests = stopCount s.requests)
    (hdisarmed : ¬ (HandledKey.mk code s r).IsStopKey → (HandledKey.mk code s r).GoesOn →
      (HandledKey.mk code s r).leavesArmed = false) :
    TwoPresses (keys ++ [⟨code, s, r⟩]) (after r).requests := by
  have hsends := @sendsStop_of_count _ s code r hcount
  refine h.concat (fun hs => ?_) hdisarmed ?_
  · rw [hsends] at hs
    cases hs
  · rw [hsends]
    exact hcount

/-- A stop that is not armed needs no key that armed it. -/
theorem ArmedBy.of_disarmed (h : TwoPresses keys l.session.requests)
    (harmed : l.session.app.control.stopArmed = false) : ArmedBy keys l := by
  refine ⟨h, fun _ h' => ?_, fun _ h' => ?_⟩
  · cases harmed.symm.trans h'
  · cases harmed.symm.trans h'

/-- **What a handled key does.**  By the cases of `dispatch_stop_cases`. -/
theorem ArmedBy.handled {s : Session F} (h : ArmedBy keys ⟨s, none⟩) (world : World) (code : KeyCode) :
    ArmedBy (keys ++ [⟨code, s, dispatch env world code s⟩]) (handled (dispatch env world code s)) := by
  have hthere : ArmedThere s := h.there rfl
  rcases @dispatch_stop_cases _ env world s hthere code with
    ⟨hkey, hbefore, t, ht, hview, ht'⟩ | ⟨hkey, hbefore, t, ht, hview⟩ | ⟨hkey, hview | ht⟩
  · -- the first press
    have hcount : stopCount t.requests = stopCount s.requests := congrArg Prod.snd hview
    have harmed : t.app.control.stopArmed = true := congrArg Prod.fst hview
    rw [ht]
    refine ⟨h.presses.concat_quiet hcount fun hs => absurd hkey hs, fun _ => ht', fun _ _ => ?_⟩
    exact ⟨keys, _, rfl, hkey, hbefore, harmed, @sendsStop_of_count _ s code (.ok false t) hcount⟩
  · -- the second press
    have hcount : stopCount t.requests = stopCount s.requests + 1 := congrArg Prod.snd hview
    have hsends : (HandledKey.mk code s (.ok false t)).sendsStop = true :=
      decide_eq_true (hcount ▸ Nat.lt_succ_self _)
    rw [ht]
    refine ArmedBy.of_disarmed (h.presses.concat (fun _ => ⟨hkey, h.last rfl hbefore⟩)
      (fun hs => absurd hkey hs) ?_) (congrArg Prod.fst hview)
    rw [hsends]
    exact hcount
  · -- another key that disarms
    have harmed : (after (dispatch env world code s)).app.control.stopArmed = false :=
      congrArg Prod.fst hview
    have hpresses := @TwoPresses.concat_quiet _ _ s h.presses code _ (congrArg Prod.snd hview)
      fun _ _ => harmed
    rw [← handled_session] at harmed hpresses
    exact ArmedBy.of_disarmed hpresses harmed
  · -- a key that ends the loop
    rw [ht]
    refine ArmedBy.of_returned (h.presses.concat_quiet rfl fun _ hgoes => ?_)
    obtain ⟨t, ht'⟩ := hgoes
    cases ht'

/-- One pass of the loop. -/
theorem ArmedBy.step (h : ArmedBy keys l) (pass : Pass) :
    ArmedBy (keys ++ (handledKey env l pass).toList) (step env l pass) := by
  unfold handledKey Tui.step
  cases hresult : l.result with
  | some r =>
    rw [Option.toList_none, List.append_nil]
    exact h
  | none =>
    have hrefreshed := @ArmedBy.refreshed _ env _ _ h hresult pass
    cases hevent : pass.event with
    | failed err =>
      rw [Option.toList_none, List.append_nil]
      exact ArmedBy.of_returned hrefreshed.presses
    | nothing =>
      rw [Option.toList_none, List.append_nil]
      exact hrefreshed
    | press code control =>
      dsimp only
      split_ifs
      · rw [Option.toList_none, List.append_nil]
        exact ArmedBy.of_returned hrefreshed.presses
      · exact hrefreshed.handled pass.world code

/-- **Stopping the bot takes two presses in a row.**  In every run of the terminal, whatever keys,
refreshes, answers and faults it gets. -/
theorem stop_takes_two_presses [F64 F] (env : TuiEnv F) (world : World) (entry : OperatorTuiEntry)
    (params : OperatorTuiParams F) (language : UiLanguage) (now : Instant) (passes : List Pass) :
    TwoPresses (handledKeys env (start env world entry params language now) passes)
      (Runs.run (step env) (start env world entry params language now) passes).session.requests := by
  have hunarmed : (start env world entry params language now).session.app.control.stopArmed =
      false := by
    show (controlState env.texts.catalog world.statusReply language).stopArmed = false
    unfold controlState
    cases requestRuntimeStatus world.statusReply <;> rfl
  have hstart : ArmedBy [] (start env world entry params language now) := by
    refine ⟨⟨?_, ?_, rfl⟩, fun _ harmed => ?_, fun _ harmed => ?_⟩
    · intro before key later heq
      exact absurd heq.symm (by simp)
    · intro key hmem
      exact absurd hmem List.not_mem_nil
    · cases hunarmed.symm.trans harmed
    · cases hunarmed.symm.trans harmed
  have hrun : ArmedBy ([] ++ handledKeys env (start env world entry params language now) passes)
      (Runs.run (step env) (start env world entry params language now) passes) :=
    Runs.trace_inv (I := ArmedBy) (fun _ _ pass h => h.step pass) hstart passes
  exact hrun.presses

end Runs

end Tui

end OoBot
