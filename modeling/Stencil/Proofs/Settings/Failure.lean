import Stencil.Proofs.Fault.Family
import Stencil.Proofs.Settings.Acceptance
import Stencil.Proofs.Settings.Naming
import Stencil.Proofs.Settings.Precedence

set_option autoImplicit false

/-!
How loading settings ends: with a map, or with a fault of the settings, unless it comes to a variable
that jams or the settings are refused and cannot be shown. Digits in a name that make no number, a text
that is no number though it has the notation of one, and a number that is too long to be written end the
loading with a fault of a numeral, which is none of the settings.
-/

namespace Stencil.Settings
open Text

variable {strict : Bool} {v : Variable} {fault : Fault}

/-- A variable whose name or text has the notation of a number but is none that can be read. No
segment of its name is empty, at least none before the one that is unreadable. -/
inductive Variable.Jams (v : Variable) : Prop where
  | name {name} : v.path? = some name → HasUnreadable (segments name) → v.Jams
  | text {name} : v.path? = some name → "" ∉ segments name → IsUnreadable v.text → v.Jams

/-- Reading an override fails for a name that is spoiled or for a variable that jams. -/
theorem fault_of_override (failed : v.override? strict = .error fault) :
    (∃ name, fault = .malformedVariable name) ∨ v.Jams ∧ ∃ numeral, fault = .numeral numeral := by
  unfold Variable.override? at failed
  split at failed
  · cases failed
  next name named =>
    rcases eq_error_of_bind failed with unread | ⟨path, read, failed⟩
    · rcases fault_of_readPath unread with ⟨rfl, _⟩ | ⟨unreadable, numeral⟩
      · exact .inl ⟨name, rfl⟩
      · exact .inr ⟨.name named unreadable, numeral⟩
    split at failed
    · cases failed
    next leads =>
      have full : "" ∉ segments name := fun spoiled => leads ((readPath_eq_nil_iff read).mpr spoiled)
      rcases eq_error_of_bind failed with unread | ⟨value, _, failed⟩
      · obtain ⟨unreadable, numeral⟩ := isUnreadable_of_coerce unread
        exact .inr ⟨.text named full unreadable, numeral⟩
      · cases failed

theorem exists_override_of_jams (strict : Bool) (jams : v.Jams) :
    ∃ numeral, v.override? strict = .error (.numeral numeral) := by
  unfold Variable.override?
  cases jams with
  | name named unreadable =>
      obtain ⟨numeral, failed⟩ := exists_readPath_of_hasUnreadable strict unreadable
      simp only [named, failed]
      exact ⟨numeral, rfl⟩
  | @text name named full unreadable =>
      cases read : readPath strict name with
      | error pathFault =>
          rcases fault_of_readPath read with ⟨_, empty⟩ | ⟨_, numeral, rfl⟩
          · exact absurd empty full
          · simp only [named, read]
            exact ⟨numeral, rfl⟩
      | ok path =>
          obtain ⟨numeral, failed⟩ := exists_coerce_of_isUnreadable unreadable
          cases path with
          | nil => exact absurd ((readPath_eq_nil_iff read).mp rfl) full
          | cons step rest =>
              simp only [named, read, failed]
              exact ⟨numeral, rfl⟩

/-- Settings are a map, and a fault is one of the settings. -/
def IsSettled : Except Fault Tree → Prop
  | .ok settings => ∃ origin entries, settings = .map origin entries
  | .error fault => fault.family? = some .settings

/-- Loading comes to a variable that jams. -/
def IsJammed (loader : Loader) (strict : Bool) (project : Option Folder)
    (environment : Environment) : Prop :=
  ∃ base v current, layers loader project = .ok base ∧
    Reaches strict base environment.ordered v current ∧ v.Jams

/-- What is loaded is checked and breaks the schema, but holds a number that is too long for the
validator to write down. -/
def IsUnspoken (loader : Loader) (options : LoadOptions) (project : Option Folder)
    (environment : Environment) : Prop :=
  options.validated = true ∧ ∃ settings,
    load loader ⟨false, options.strict⟩ project environment = .ok settings ∧
      Judges Schema.settingsDocument settings.value false ∧ settings.value.hasText = false ∧
      loader.check .settings settings.value = .error (.numeral .unwritable)

variable {loader : Loader} {options : LoadOptions} {project : Option Folder}
  {environment : Environment} {base settings : Tree}

theorem family_of_layers (failed : layers loader project = .error fault) :
    fault.family? = some .settings := by
  cases project with
  | none => cases failed
  | some folder =>
      obtain ⟨own, _, rfl⟩ := exists_of_mapError_eq_error failed
      cases own <;> rfl

theorem exists_map_of_layers (merged : layers loader project = .ok base) :
    ∃ origin entries, base = .map origin entries := by
  obtain ⟨_, _, _, _, shown, _⟩ := exists_of_layers merged
  obtain ⟨origin, entries, same, _⟩ := Tree.exists_eq_map_of_value shown
  exact ⟨origin, entries, same⟩

theorem exists_load_of_isJammed (jammed : IsJammed loader options.strict project environment) :
    ∃ numeral, load loader options project environment = .error (.numeral numeral) := by
  obtain ⟨base, v, current, merged, reaches, jams⟩ := jammed
  obtain ⟨numeral, unread⟩ := exists_override_of_jams options.strict jams
  refine ⟨numeral, ?_⟩
  have stopped : (applyEnvironment options.strict base environment).fault = some (.numeral numeral) :=
    reaches.fault_eq unread
  simp only [load, merged, bind, Except.bind, stopped]
  rfl

/-- Without a check, loading ends well unless it comes to a variable that jams. -/
theorem isSettled_unchecked {strict : Bool} (fluent : ¬IsJammed loader strict project environment) :
    IsSettled (load loader ⟨false, strict⟩ project environment) := by
  rw [load]
  cases merged : layers loader project with
  | error own => exact family_of_layers merged
  | ok base =>
      simp only [bind, Except.bind]
      cases stopped : (applyEnvironment strict base environment).fault with
      | some own =>
          -- Without a variable that jams, an empty segment stops the applying or an assignment.
          obtain ⟨v, current, reaches, unread | ⟨unassigned, rfl⟩⟩ := exists_reaches_of_fault stopped
          · rcases fault_of_override unread with ⟨name, rfl⟩ | ⟨jams, _⟩
            · rfl
            · exact absurd ⟨base, v, current, merged, reaches, jams⟩ fluent
          · rfl
      | none =>
          obtain ⟨overrides, _, assigns⟩ := assignsAll_of_applyVariables stopped
          exact assigns.exists_eq_map (exists_map_of_layers merged)

/-- The check comes last. -/
theorem load_eq_checked (loader : Loader) (options : LoadOptions) (project : Option Folder)
    (environment : Environment) :
    load loader options project environment = (do
      let settings ← load loader ⟨false, options.strict⟩ project environment
      if options.validated then validate loader.check true settingsSchemaName settings.value
      return settings) := by
  simp only [load]
  cases layers loader project with
  | error => rfl
  | ok base =>
      simp only [bind, Except.bind]
      cases (applyEnvironment options.strict base environment).fault <;> rfl

/-- A check ends well or with a fault of the settings, or what it objects to cannot be written. -/
theorem outcome_of_validate (follows : loader.check.Follows .settings) (settings : Value) :
    validate loader.check true settingsSchemaName settings = .ok () ∨
      (∃ fault, validate loader.check true settingsSchemaName settings = .error fault ∧
        fault.family? = some .settings) ∨
      Judges Schema.settingsDocument settings false ∧ settings.hasText = false ∧
        loader.check .settings settings = .error (.numeral .unwritable) := by
  have known : findSchema settingsSchemaName = .ok .settings := rfl
  by_cases conforms : Conforms settingsSchema settings
  · exact .inl ((validate_settings_eq_ok_iff follows true settings).mpr conforms)
  · have judged : Judges Schema.settingsDocument settings false :=
      Schema.judges_settingsDocument_iff.mpr (iff_of_false Bool.false_ne_true conforms)
    rcases follows.refuses settings judged with ⟨violation, objected⟩ | ⟨textless, failed⟩
    · refine .inr (.inl ⟨.violation settingsSchemaName violation.pathText violation.reason true, ?_,
        rfl⟩)
      rw [validate, known]
      simp only [bind, Except.bind, objected]
      rfl
    · exact .inr (.inr ⟨judged, textless, failed⟩)

theorem load_of_isUnspoken (unspoken : IsUnspoken loader options project environment) :
    load loader options project environment = .error (.numeral .unwritable) := by
  obtain ⟨validated, settings, loaded, _, _, failed⟩ := unspoken
  have known : findSchema settingsSchemaName = .ok .settings := rfl
  rw [load_eq_checked, loaded]
  simp only [bind, Except.bind, validated, validate, known, failed]
  rfl

theorem isSettled_of_not_isJammed (follows : loader.check.Follows .settings)
    (fluent : ¬IsJammed loader options.strict project environment)
    (spoken : ¬IsUnspoken loader options project environment) :
    IsSettled (load loader options project environment) := by
  have settled := isSettled_unchecked fluent
  rw [load_eq_checked]
  cases loaded : load loader ⟨false, options.strict⟩ project environment with
  | error own =>
      rw [loaded] at settled
      exact settled
  | ok settings =>
      rw [loaded] at settled
      simp only [bind, Except.bind]
      by_cases validated : options.validated = true
      · rw [if_pos validated]
        rcases outcome_of_validate follows settings.value with passed | ⟨own, failed, family⟩ | failed
        · rw [passed]
          exact settled
        · rw [failed]
          exact family
        · exact absurd ⟨validated, settings, loaded, failed⟩ spoken
      · rw [if_neg validated]
        exact settled

theorem not_isSettled_numeral (numeral : NumeralFault) : ¬IsSettled (.error (.numeral numeral)) :=
  Option.some_ne_none _ ∘ Eq.symm

/-- Loading ends with a map of settings or with a fault of the settings unless it comes to a variable
that jams or to an objection that cannot be written, and then it ends with a fault of a numeral. -/
theorem isSettled_load_iff (follows : loader.check.Follows .settings) (options : LoadOptions)
    (project : Option Folder) (environment : Environment) :
    (IsSettled (load loader options project environment) ↔
        ¬IsJammed loader options.strict project environment ∧
          ¬IsUnspoken loader options project environment) ∧
      (IsJammed loader options.strict project environment →
        ∃ numeral, load loader options project environment = .error (.numeral numeral)) ∧
      (IsUnspoken loader options project environment →
        load loader options project environment = .error (.numeral .unwritable)) := by
  refine ⟨⟨fun settled => ⟨fun jammed => ?_, fun unspoken => ?_⟩, fun ⟨fluent, spoken⟩ =>
    isSettled_of_not_isJammed follows fluent spoken⟩, exists_load_of_isJammed, load_of_isUnspoken⟩
  · obtain ⟨numeral, failed⟩ := exists_load_of_isJammed jammed
    rw [failed] at settled
    exact not_isSettled_numeral numeral settled
  · rw [load_of_isUnspoken unspoken] at settled
    exact not_isSettled_numeral _ settled

theorem holds_otherDigits_superscript : otherDigits.holds '²' = true := by
  simp only [otherDigits, Ranges.ofRows, tableWords_eq, List.map_cons, List.map_nil]
  repeat rw [String.toList_ofList]
  decide +kernel

theorem isDecimal_superscript : isDecimal '²' = false := by
  rw [isDecimal_eq_holds (by decide)]
  simp only [decimalRanges, decimalZeros, tableWords_eq, List.map_cons, List.map_nil]
  repeat rw [String.toList_ofList]
  decide +kernel

/-- A superscript two is a digit but no decimal one. -/
theorem isUnreadableSegment_superscript : IsUnreadableSegment "²" where
  filled := by decide
  digits c member := by
    obtain rfl : c = '²' := by simpa using member
    simp [isDigit, holds_otherDigits_superscript]
  broken := by
    exact .inl ⟨'²', by simp, isDecimal_superscript⟩

def superscript : Environment := [⟨"WHISKER_RENDERING__²", "1"⟩]

theorem isJammed_superscript : IsJammed .standard false none superscript := by
  have named : segments "RENDERING__²" = ["RENDERING", "²"] := by decide
  have jams : Variable.Jams ⟨"WHISKER_RENDERING__²", "1"⟩ :=
    .name rfl (named ▸ .later (by decide) (.here isUnreadableSegment_superscript))
  have ordered : superscript.ordered = superscript := List.mergeSort_singleton _
  exact ⟨bundled, _, bundled, rfl, by rw [ordered]; exact .here, jams⟩

theorem superscript_ends_loading : Validator.standard.Follows .settings ∧
    IsJammed .standard false none superscript ∧
      ∃ numeral, load .standard .standard none superscript = .error (.numeral numeral) := by
  have follows := Validator.standard_follows_settings
  have ⟨_, jams, _⟩ := @isSettled_load_iff .standard follows .standard none superscript
  exact ⟨follows, isJammed_superscript, jams isJammed_superscript⟩

theorem not_isSettled_load_superscript : ¬IsSettled (load .standard .standard none superscript) := by
  have jammed : IsJammed .standard LoadOptions.standard.strict none superscript :=
    isJammed_superscript
  obtain ⟨numeral, failed⟩ := exists_load_of_isJammed jammed
  rw [failed]
  exact not_isSettled_numeral numeral

end Stencil.Settings
