import Stencil.Proofs.Settings.Conformance
import Stencil.Settings.Rendering

set_option autoImplicit false

/-!
Settings that conform to their schema can be read. What is read of a property, be it said or left
out, conforms to its own part of the schema, and so it is something that rendering can work with.
-/

namespace Stencil

namespace Settings

variable {config value : Value} {entries : List (Value × Value)}
  {properties : List (String × Schema)} {required : List String} {closed : Bool}

theorem Conforms.exists_map (conforms : Conforms (.map properties required closed) value) :
    ∃ entries, value = .map entries := by
  cases conforms
  exact ⟨_, rfl⟩

theorem Conforms.of_found (conforms : Conforms (.map properties required closed) (.map entries))
    {name : String} {schema : Schema} (listed : (name, schema) ∈ properties)
    (found : Value.entry? name entries = some value) : Conforms schema value := by
  cases conforms with
  | map own _ _ => exact own _ listed value (Value.mem_of_found found)

theorem Conforms.exists_of_required
    (conforms : Conforms (.map properties required closed) (.map entries)) {name : String}
    (needed : name ∈ required) : ∃ value, Value.entry? name entries = some value := by
  cases conforms with
  | map _ all _ => exact Value.exists_found_iff.mpr (all name needed)

end Settings

namespace RenderSettings
open Settings

variable {settings : RenderSettings} {entries : List (Value × Value)} {name : String}
  {schema : Schema} {otherwise : Value}

theorem part_eq_of_found {sections : List (Value × Value)}
    (found : Value.entry? "rendering" sections = some (.map entries)) :
    part ⟨.map sections⟩ = .ok (.map entries) := by
  have read : part ⟨.map sections⟩ =
      .ok (if (Value.map entries).truth then .map entries else .map []) := by
    rw [part]
    show Except.ok _ = _
    rw [found]
  rw [read]
  cases entries <;> rfl

/-- The section on rendering is there, and conforms to its part of the schema. -/
theorem exists_part (conforms : Conforms settingsSchema settings.config) :
    ∃ entries, settings.part = .ok (.map entries) ∧ Conforms renderingSchema (.map entries) := by
  obtain ⟨config⟩ := settings
  obtain ⟨sections, rfl⟩ := conforms.exists_map
  have needed : "rendering" ∈ ["rendering"] := List.mem_cons_self
  have listed : ("rendering", renderingSchema) ∈ [("rendering", renderingSchema)] :=
    List.mem_cons_self
  obtain ⟨value, found⟩ := conforms.exists_of_required needed
  have own : Conforms renderingSchema value := conforms.of_found listed found
  obtain ⟨entries, rfl⟩ := own.exists_map
  exact ⟨entries, part_eq_of_found found, own⟩

/-- A property that is left out conforms as well, if what stands in for it does. -/
theorem exists_property {properties : List (String × Schema)} {required : List String}
    {closed : Bool} (part : settings.part = .ok (.map entries))
    (conforms : Conforms (.map properties required closed) (.map entries))
    (listed : (name, schema) ∈ properties) (default : Conforms schema otherwise) :
    ∃ value, settings.property name otherwise = .ok value ∧ Conforms schema value := by
  have read : settings.property name otherwise =
      .ok ((Value.entry? name entries).getD otherwise) := by
    rw [property, part]
    rfl
  refine ⟨_, read, ?_⟩
  cases found : Value.entry? name entries with
  | none => exact default
  | some value => exact conforms.of_found listed found

theorem exists_chosen {properties : List (String × Schema)} {required options : List String}
    {closed : Bool} {fallback : String} (part : settings.part = .ok (.map entries))
    (conforms : Conforms (.map properties required closed) (.map entries))
    (listed : (name, .choice options) ∈ properties) (default : fallback ∈ options) :
    ∃ chosen ∈ options, settings.property name (.text fallback) = .ok (.text chosen) := by
  obtain ⟨_, read, conforming⟩ := exists_property part conforms listed (.choice default)
  cases conforming with
  | choice member => exact ⟨_, member, read⟩

/-- Each setting can be read, and is one that rendering can work with. -/
structure AreReady (settings : RenderSettings) : Prop where
  separator : ∃ separator, settings.separator = .ok separator ∧ separator ≠ ""
  currentKeys : ∃ keys, settings.currentKeys = .ok keys ∧
    ∀ key ∈ keys, ∃ name, key = .text name ∧ name ≠ ""
  escape : settings.escape = .ok "html" ∨ settings.escape = .ok "none"
  provider : ∃ provider, settings.provider = .ok provider
  strictKeys : ∃ strict, settings.strictKeys = .ok strict
  missingLevel : ∃ level, settings.missingLevel = .ok level ∧
    level ∈ ([10, 20, 30, 40, 50] : List Int)

def levelNames : List String := ["DEBUG", "INFO", "WARNING", "ERROR", "CRITICAL"]

theorem levelNamed_mem : ∀ name ∈ levelNames,
    LogRecord.levelNamed (Text.upper (Value.text name).toText) ∈
      ([10, 20, 30, 40, 50] : List Int) := by
  decide

theorem areReady_of_conforms (conforms : Conforms settingsSchema settings.config) :
    settings.AreReady := by
  obtain ⟨entries, part, own⟩ := exists_part conforms
  constructor
  case separator =>
    have said : ∃ value, settings.property "path_separator" (.text ".") = .ok value ∧
        Conforms (.text true) value :=
      exists_property part own (by simp) (.text (by decide))
    obtain ⟨_, read, ⟨nonempty⟩⟩ := said
    exact ⟨_, by rw [separator, read]; rfl, nonempty rfl⟩
  case currentKeys =>
    have said : ∃ value,
        settings.property "current_value_keys" (.list [.text ".", .text "this"]) = .ok value ∧
          Conforms (.list (.text true)) value :=
      exists_property part own (by simp) (.list (by simp [Conforms.text]))
    obtain ⟨_, read, conforming⟩ := said
    cases conforming with
    | list each =>
        refine ⟨_, by rw [currentKeys, read]; rfl, fun key member => ?_⟩
        cases each key member with
        | text nonempty => exact ⟨_, rfl, nonempty rfl⟩
  case escape =>
    have said : ∃ chosen ∈ ["html", "none"],
        settings.property "escape" (.text "html") = .ok (.text chosen) :=
      exists_chosen part own (by simp) (by decide)
    obtain ⟨chosen, member, read⟩ := said
    have escaping : settings.escape = .ok chosen := by rw [escape, read]; rfl
    simpa [escaping] using member
  case provider =>
    have said : ∃ value, settings.property "provider" .null = .ok value ∧
        Conforms .textOrNull value :=
      exists_property part own (by simp) .null
    obtain ⟨value, read, _⟩ := said
    exact ⟨value, read⟩
  case strictKeys =>
    have said : ∃ value, settings.property "strict_keys" (.bool false) = .ok value ∧
        Conforms .flag value :=
      exists_property part own (by simp) .flag
    obtain ⟨_, read, _⟩ := said
    exact ⟨_, by rw [strictKeys, read]; rfl⟩
  case missingLevel =>
    have said : ∃ chosen ∈ levelNames,
        settings.property "missing_key_log_level" (.text "DEBUG") = .ok (.text chosen) :=
      exists_chosen part own (by simp [levelNames]) (by decide)
    obtain ⟨chosen, member, read⟩ := said
    exact ⟨_, by rw [missingLevel, read]; rfl, levelNamed_mem chosen member⟩

end RenderSettings
end Stencil
