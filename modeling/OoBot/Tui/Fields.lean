import OoBot.Tui.Setup

/-!
# Fields of the setup screen and each other

Every field but three has a part of the configuration of its own.  The three fields of the signature
share one optional record, and restoring any of them restores the record (`restore_frame_iff`).
-/

namespace OoBot

variable {F : Type}

/-- The fields that share the record of the signature. -/
def SetupField.ofSignature : SetupField → Bool
  | .signatureEnabled | .signaturePath | .signatureHmacEnv => true
  | _ => false

variable {texts : SetupTexts} {language : UiLanguage} {setup : SetupState F} {f g : SetupField}

/-- A field with a part of its own leaves the others alone. -/
theorem setupFieldValue_restore_of_ne (hne : f ≠ g) (hf : f.ofSignature = false) :
    setupFieldValue texts language (restoreDefaultForField setup f).draft g =
      setupFieldValue texts language setup.draft g := by
  cases f with
  | signatureEnabled | signaturePath | signatureHmacEnv => cases hf
  | _ => cases g <;> first | rfl | exact absurd rfl hne

/-- A field of the signature restores the record. -/
theorem draft_restore_of_signature (hf : f.ofSignature = true) :
    (restoreDefaultForField setup f).draft =
      { setup.draft with integrity :=
        { setup.draft.integrity with
          configSignature := setup.defaults.integrity.configSignature } } := by
  cases f with
  | signatureEnabled | signaturePath | signatureHmacEnv => rfl
  | _ => cases hf

/-- What a field of the signature does to the fields of the signature, and to the others. -/
theorem setupFieldValue_restore_of_signature (hf : f.ofSignature = true) :
    setupFieldValue texts language (restoreDefaultForField setup f).draft g =
      if g.ofSignature then setupFieldValue texts language setup.defaults g
      else setupFieldValue texts language setup.draft g := by
  rw [draft_restore_of_signature hf]
  cases g <;> rfl

/-- An empty text for a field restores its default. -/
theorem applyCustomFieldInput_of_blank {raw : Text} (h : trim raw = []) :
    applyCustomFieldInput texts setup f raw language = .ok (restoreDefaultForField setup f) := by
  unfold applyCustomFieldInput
  simp only [h]
  rfl

/-- **When restoring a field leaves another one alone.**  Restoring `f`, or submitting an empty text for
it, leaves the value of another field `g` unchanged exactly when `f` is not the path or the key variable
of the signature, or `g` is no field of the signature, or `g` has its default value already. -/
theorem restore_frame_iff (texts : SetupTexts) (language : UiLanguage) (setup : SetupState F)
    (raw : Text) (hraw : trim raw = []) {f g : SetupField} (hne : f ≠ g)
    (hf : f ≠ .signatureEnabled) :
    applyCustomFieldInput texts setup f raw language = .ok (restoreDefaultForField setup f) ∧
      (setupFieldValue texts language (restoreDefaultForField setup f).draft g =
          setupFieldValue texts language setup.draft g ↔
        (f ≠ .signaturePath ∧ f ≠ .signatureHmacEnv) ∨ g.ofSignature = false ∨
          setupFieldValue texts language setup.defaults g =
            setupFieldValue texts language setup.draft g) := by
  refine ⟨applyCustomFieldInput_of_blank hraw, ?_⟩
  have hshared : f.ofSignature = true ↔ ¬ (f ≠ .signaturePath ∧ f ≠ .signatureHmacEnv) := by
    cases f <;> simp_all [SetupField.ofSignature]
  cases hsig : f.ofSignature with
  | false =>
    rw [hsig] at hshared
    refine iff_of_true (setupFieldValue_restore_of_ne hne hsig) (Or.inl ?_)
    exact not_not.1 fun h => Bool.false_ne_true (hshared.2 h)
  | true =>
    rw [setupFieldValue_restore_of_signature hsig, or_iff_right (hshared.1 hsig)]
    cases hg : g.ofSignature with
    | false => exact iff_of_true (if_neg Bool.false_ne_true) (Or.inl rfl)
    | true => simp

/-- The texts of the setup screen, in a terminal whose catalog is empty. -/
def plainTexts : SetupTexts where
  catalog := ⟨fun _ => none, fun _ => none⟩
  backendFromYaml := fun s =>
    if s = "fallback".toList then .ok .fallback
    else if s = "morphological_reading".toList then .ok .morphologicalReading
    else .error "unknown variant".toList
  pathFrom := fun s => .names (s.splitOn '/')
  display := fun path => ['/'].intercalate (path.steps.map fun step =>
    match step with
    | .parentDir => "..".toList
    | .normal name => name)

/-- The canonical configuration with a signature. -/
def signedDraft : StartupConfig ℚ :=
  { canonicalStartupConfig ℚ with integrity :=
    { canonicalIntegrityConfig with configSignature := some (presetSignature plainTexts) } }

/-- The setup screen with that draft and the canonical defaults. -/
def signedSetup : SetupState ℚ := ⟨signedDraft, canonicalStartupConfig ℚ, .integrity, 2⟩

theorem restore_frame_stamp :
    applyCustomFieldInput plainTexts signedSetup .stampText [' '] .english =
        .ok (restoreDefaultForField signedSetup .stampText) ∧
      (setupFieldValue plainTexts .english (restoreDefaultForField signedSetup .stampText).draft
          .signatureEnabled = setupFieldValue plainTexts .english signedSetup.draft .signatureEnabled ↔
        (SetupField.stampText ≠ .signaturePath ∧ SetupField.stampText ≠ .signatureHmacEnv) ∨
          SetupField.signatureEnabled.ofSignature = false ∨
          setupFieldValue plainTexts .english signedSetup.defaults .signatureEnabled =
            setupFieldValue plainTexts .english signedSetup.draft .signatureEnabled) :=
  restore_frame_iff plainTexts .english signedSetup [' '] (by decide) (by decide) (by decide)

/-- Restoring the key variable of the signature turns the signature off. -/
theorem restore_disables_signature :
    setupFieldValue plainTexts .english signedSetup.draft .signatureEnabled = "true".toList ∧
      setupFieldValue plainTexts .english
        (restoreDefaultForField signedSetup .signatureHmacEnv).draft .signatureEnabled =
          "false".toList := by
  constructor <;> decide

end OoBot
