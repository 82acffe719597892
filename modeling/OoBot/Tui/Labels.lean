import OoBot.Text

/-!
# Texts of the operator's terminal

`label` and `template` of `src/operator_tui.rs`.  The texts are those of a catalog in two languages,
`config/i18n/operator_tui.yaml`; a key without a text stands for itself.
-/

namespace OoBot

/-- `UiLanguage`. -/
inductive UiLanguage
  | english
  | japanese
  deriving DecidableEq

/-- `UiCatalog`. -/
structure UiCatalog where
  en : Text → Option Text
  ja : Text → Option Text

/-- `label`; its callers give the key for the fallback. -/
def label (catalog : UiCatalog) (language : UiLanguage) (key : String) : Text :=
  let map :=
    match language with
    | .english => catalog.en
    | .japanese => catalog.ja
  (map key.toList).getD key.toList

/-- `template`. -/
def template (catalog : UiCatalog) (language : UiLanguage) (key : String)
    (replacements : List (String × Text)) : Text :=
  replacements.foldl
    (fun value r => replace value (['{'] ++ r.1.toList ++ ['}']) r.2) (label catalog language key)

/-- `language_switched_message`. -/
def languageSwitchedMessage (catalog : UiCatalog) (language : UiLanguage) : Text :=
  match language with
  | .english => label catalog language "status.language_english"
  | .japanese => label catalog language "status.language_japanese"

/-- `default_status_message`. -/
def defaultStatusMessage (catalog : UiCatalog) (startupCreated : Bool) (language : UiLanguage) : Text :=
  if startupCreated then label catalog language "status.startup_created"
  else label catalog language "status.default_nav"

end OoBot
