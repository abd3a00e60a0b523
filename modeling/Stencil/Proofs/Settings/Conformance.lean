import Mathlib.Logic.Basic
import Stencil.Proofs.Value.Entries
import Stencil.Settings.Validator

set_option autoImplicit false

/-!
What a schema allows, said without objections: there are none to a value just if it conforms to the
schema. Checking a value succeeds just if the validator has no objection to it.
-/

namespace Stencil.Settings

/-- The values that a schema allows. -/
inductive Conforms : Schema → Value → Prop where
  | text {nonempty s} : (nonempty = true → s ≠ "") → Conforms (.text nonempty) (.text s)
  | choice {options s} : s ∈ options → Conforms (.choice options) (.text s)
  | optionalText {s} : Conforms .textOrNull (.text s)
  | null : Conforms .textOrNull .null
  | flag {b} : Conforms .flag (.bool b)
  | list {items values} :
      (∀ value ∈ values, Conforms items value) → Conforms (.list items) (.list values)
  | map {properties required closed entries} :
      (∀ property ∈ properties, ∀ value, (.text property.1, value) ∈ entries →
        Conforms property.2 value) →
      (∀ name ∈ required, ∃ value, (.text name, value) ∈ entries) →
      (closed = true → ∀ entry ∈ entries, ∃ property ∈ properties, entry.1 = .text property.1) →
      Conforms (.map properties required closed) (.map entries)

namespace Schema

theorem choiceObjections_eq_nil_iff (path : Path) (options : List String) (value : Value) :
    choiceObjections path options value = [] ↔ Conforms (.choice options) value := by
  constructor
  · intro unobjected
    cases chosen : options.any fun option => value.isText option with
    | true =>
        obtain ⟨option, member, isOption⟩ := List.any_eq_true.mp chosen
        rw [Value.eq_text_of_isText isOption]
        exact .choice member
    | false => simp [choiceObjections, chosen] at unobjected
  · intro conforms
    cases conforms with
    | choice member =>
        have chosen : (options.any fun option => (Value.text _).isText option) = true :=
          List.any_eq_true.mpr ⟨_, member, Value.isText_text⟩
        rw [choiceObjections, if_pos chosen]

theorem extraKeys_eq_nil_iff (names : List String) (entries : List (Value × Value)) :
    extraKeys names entries = [] ↔ ∀ entry ∈ entries, ∃ name ∈ names, entry.1 = .text name := by
  rw [extraKeys, ← List.length_eq_zero_iff, List.length_mergeSort, List.length_eq_zero_iff]
  simp [Value.isText_iff]

/-- A map has all that is required, and a closed one has nothing else. -/
theorem entryObjections_eq_nil_iff (path : Path) (names required : List String) (closed : Bool)
    (entries : List (Value × Value)) :
    entryObjections path names required closed entries = [] ↔
      (∀ name ∈ required, ∃ value, (.text name, value) ∈ entries) ∧
        (closed = true → ∀ entry ∈ entries, ∃ name ∈ names, entry.1 = .text name) := by
  rw [← extraKeys_eq_nil_iff, entryObjections, List.append_eq_nil_iff]
  refine and_congr ?_ ?_
  · simp [Option.ne_none_iff_exists', Value.exists_found_iff]
  · cases closed <;> simp

theorem objections_list_eq_nil_iff (path : Path) (items : Schema) (values : List Value) :
    objections path (.list items) (.list values) = [] ↔
      ∀ position (value : Value), values[position]? = some value →
        objections (path ++ [.index position]) items value = [] := by
  simp only [objections, List.flatten_eq_nil_iff, List.forall_mem_map, Prod.forall,
    List.mem_zipIdx_iff_getElem?]
  exact forall_comm

theorem propertyObjections_cons_eq_nil_iff (name : String) (schema : Schema) (path : Path)
    (entries : List (Value × Value)) (rest : List (String × Schema)) :
    propertyObjections path entries ((name, schema) :: rest) = [] ↔
      (∀ value, (.text name, value) ∈ entries →
          objections (path ++ [.key name]) schema value = []) ∧
        propertyObjections path entries rest = [] := by
  rw [propertyObjections, List.append_eq_nil_iff, List.flatMap_eq_nil_iff]
  refine and_congr_left fun _ => ⟨fun each value member => ?_, fun each entry member => ?_⟩
  · exact each _ (List.mem_filter.mpr ⟨member, Value.isText_text⟩)
  · obtain ⟨member, isText⟩ := List.mem_filter.mp member
    exact each entry.2 (Value.eq_text_of_isText isText ▸ member)

mutual

theorem objections_eq_nil_iff : ∀ (schema : Schema) (path : Path) (value : Value),
    objections path schema value = [] ↔ Conforms schema value
  | .text nonempty, path, value => by
      cases value with
      | text s =>
          have : objections path (.text nonempty) (.text s) = [] ↔ (nonempty = true → s ≠ "") := by
            simp [objections]
          exact this.trans ⟨.text, fun | .text long => long⟩
      | _ => exact iff_of_false (List.cons_ne_nil _ _) nofun
  | .choice options, path, value => choiceObjections_eq_nil_iff path options value
  | .textOrNull, path, value => by
      cases value with
      | text s => exact iff_of_true rfl .optionalText
      | null => exact iff_of_true rfl .null
      | _ => exact iff_of_false (List.cons_ne_nil _ _) nofun
  | .flag, path, value => by
      cases value with
      | bool b => exact iff_of_true rfl .flag
      | _ => exact iff_of_false (List.cons_ne_nil _ _) nofun
  | .list items, path, value => by
      cases value with
      | list values =>
          rw [objections_list_eq_nil_iff]
          constructor
          · intro unobjected
            refine .list fun value member => ?_
            obtain ⟨position, found⟩ := List.getElem?_of_mem member
            exact (objections_eq_nil_iff items _ value).mp (unobjected position value found)
          · intro conforms position value found
            cases conforms with
            | list conforming =>
                exact (objections_eq_nil_iff items _ value).mpr
                  (conforming value (List.mem_of_getElem? found))
      | _ => exact iff_of_false (List.cons_ne_nil _ _) nofun
  | .map properties required closed, path, value => by
      cases value with
      | map entries =>
          rw [objections, List.append_eq_nil_iff, entryObjections_eq_nil_iff,
            propertyObjections_eq_nil_iff properties path entries]
          simp only [List.mem_map, exists_exists_and_eq_and]
          exact ⟨fun ⟨own, all, only⟩ => .map own all only,
            fun | .map own all only => ⟨own, all, only⟩⟩
      | _ => exact iff_of_false (List.cons_ne_nil _ _) nofun

theorem propertyObjections_eq_nil_iff : ∀ (properties : List (String × Schema)) (path : Path)
    (entries : List (Value × Value)),
    propertyObjections path entries properties = [] ↔
      ∀ property ∈ properties, ∀ value, (.text property.1, value) ∈ entries →
        Conforms property.2 value
  | [], path, entries => iff_of_true rfl nofun
  | (name, schema) :: rest, path, entries => by
      rw [propertyObjections_cons_eq_nil_iff, propertyObjections_eq_nil_iff rest path entries]
      simp only [objections_eq_nil_iff schema, List.forall_mem_cons]

end

end Schema

theorem Violation.choose?_eq_none_iff (violations : List Violation) :
    choose? violations = none ↔ violations = [] := by
  cases violations with
  | nil => exact iff_of_true rfl rfl
  | cons first rest => exact iff_of_false (Option.some_ne_none _) (List.cons_ne_nil _ _)

theorem validate_eq_ok_iff {validator : Validator} (loading : Bool) (name : String) (value : Value) :
    validate validator loading name value = .ok () ↔
      ∃ known, findSchema name = .ok known ∧ validator known value = .ok none := by
  rw [validate]
  cases findSchema name with
  | error fault => exact iff_of_false nofun nofun
  | ok known =>
      show (validator known value >>= _) = _ ↔ _
      cases checked : validator known value with
      | error fault => exact iff_of_false nofun (by simp [checked])
      | ok violation? =>
          cases violation? with
          | none => exact iff_of_true rfl ⟨known, rfl, checked⟩
          | some violation => exact iff_of_false nofun (by simp [checked])

theorem defaults_conform : Conforms settingsSchema (.map defaults) :=
  (Schema.objections_eq_nil_iff settingsSchema [] _).mp (List.isEmpty_iff.mp (by decide +kernel))

end Stencil.Settings
