import Stencil.Proofs.Settings.Conformance
import Stencil.Proofs.Settings.Keywords
import Stencil.Settings.Standard

set_option autoImplicit false

/-!
The document of a schema says what the schema says: a value meets its keywords just if it conforms.
So a validator that goes by the keywords of the settings' schema passes just those settings that
conform, and the standard one is such a validator.
-/

namespace Stencil.Settings

theorem conforms_text_iff {nonempty : Bool} {value : Value} :
    Conforms (.text nonempty) value ↔ ∃ s, value = .text s ∧ (nonempty = true → s ≠ "") :=
  ⟨fun | .text long => ⟨_, rfl, long⟩, fun ⟨_, same, long⟩ => same ▸ .text long⟩

theorem conforms_choice_iff {options : List String} {value : Value} :
    Conforms (.choice options) value ↔ ∃ s ∈ options, value = .text s :=
  ⟨fun | .choice member => ⟨_, member, rfl⟩, fun ⟨_, member, same⟩ => same ▸ .choice member⟩

theorem conforms_textOrNull_iff {value : Value} :
    Conforms .textOrNull value ↔ (∃ s, value = .text s) ∨ value = .null :=
  ⟨fun | .optionalText => .inl ⟨_, rfl⟩ | .null => .inr rfl,
    fun | .inl ⟨_, same⟩ => same ▸ .optionalText | .inr same => same ▸ .null⟩

theorem conforms_flag_iff {value : Value} : Conforms .flag value ↔ ∃ b, value = .bool b :=
  ⟨fun | .flag => ⟨_, rfl⟩, fun ⟨_, same⟩ => same ▸ .flag⟩

theorem conforms_map_iff {properties : List (String × Schema)} {required : List String}
    {closed : Bool} {value : Value} :
    Conforms (.map properties required closed) value ↔ ∃ entries, value = .map entries ∧
      (∀ property ∈ properties, ∀ inner, (.text property.1, inner) ∈ entries →
        Conforms property.2 inner) ∧
      (∀ name ∈ required, ∃ inner, (.text name, inner) ∈ entries) ∧
      (closed = true → ∀ entry ∈ entries, ∃ property ∈ properties,
        entry.1 = .text property.1) :=
  ⟨fun | .map own all only => ⟨_, rfl, own, all, only⟩,
    fun ⟨_, same, own, all, only⟩ => same ▸ .map own all only⟩

namespace Schema

open Classical Keywords

theorem propertyFields_eq (properties : List (String × Schema)) :
    propertyFields properties =
      properties.map fun property => (property.1, .ofFields (fields property.2)) := by
  induction properties with
  | nil => rfl
  | cons property rest inductionHypothesis =>
      obtain ⟨name, schema⟩ := property
      rw [propertyFields, inductionHypothesis, List.map_cons]

variable (root : Value)

mutual

/-- With enough depth, the document of a schema is met just by what conforms to the schema. -/
theorem exists_judge_fields : ∀ schema : Schema, ∃ depth, ∀ more, depth ≤ more → ∀ value,
    judge root more (.ofFields (fields schema)) value = some (decide (Conforms schema value))
  | .text nonempty => by
      refine ⟨1, fun more enough value => ?_⟩
      obtain ⟨more, rfl⟩ := Nat.exists_eq_add_of_le' enough
      rw [judge_ofFields]
      cases nonempty <;> cases value <;>
        simp [fields, every, meets?_minLength, isOfType?, type?, conforms_text_iff]
  | .choice options => by
      refine ⟨1, fun more enough value => ?_⟩
      obtain ⟨more, rfl⟩ := Nat.exists_eq_add_of_le' enough
      rw [judge_ofFields]
      cases value <;> simp [fields, every, meets?_enum, isOfType?, type?, conforms_choice_iff]
  | .textOrNull => by
      refine ⟨1, fun more enough value => ?_⟩
      obtain ⟨more, rfl⟩ := Nat.exists_eq_add_of_le' enough
      rw [judge_ofFields]
      cases value <;>
        simp [fields, every, howMany, meets?_types, isOfType?, type?, conforms_textOrNull_iff]
  | .flag => by
      refine ⟨1, fun more enough value => ?_⟩
      obtain ⟨more, rfl⟩ := Nat.exists_eq_add_of_le' enough
      rw [judge_ofFields]
      cases value <;>
        simp [fields, every, howMany, meets?_types, types?, isOfType?, type?, conforms_flag_iff]
  | .list items => by
      obtain ⟨depth, judged⟩ := exists_judge_fields items
      refine ⟨depth + 1, fun more enough value => ?_⟩
      obtain ⟨more, rfl⟩ := Nat.exists_eq_add_of_le' enough
      rw [fields, ← Nat.add_assoc, judge_array _ fun _ item _ _ =>
        judged (more + depth) (by omega) item]
      congr 1
      rw [decide_eq_decide]
      exact ⟨fun ⟨_, same, all⟩ => same ▸ .list all, fun | .list all => ⟨_, rfl, all⟩⟩
  | .map properties required closed => by
      obtain ⟨depth, judged⟩ := exists_judge_properties properties
      refine ⟨depth + 1, fun more enough value => ?_⟩
      obtain ⟨more, rfl⟩ := Nat.exists_eq_add_of_le' enough
      rw [fields, propertyFields_eq, ← Nat.add_assoc, judge_objectFields
        fun property inner => judge root (more + depth) property.2 inner = some true]
      · congr 1
        rw [decide_eq_decide, conforms_map_iff]
        refine exists_congr fun entries => and_congr_right fun _ => and_congr ?_ (and_congr_right ?_)
        · simp only [List.forall_mem_map]
          refine forall₂_congr fun property listed => forall₂_congr fun inner _ => ?_
          rw [judged (more + depth) (by omega) property listed inner]
          simp
        · intro _
          simp only [List.mem_map, exists_exists_and_eq_and]
      · simp only [List.forall_mem_map]
        intro property listed _ inner _ _
        rw [judged (more + depth) (by omega) property listed inner]
        simp

theorem exists_judge_properties : ∀ properties : List (String × Schema),
    ∃ depth, ∀ more, depth ≤ more → ∀ property ∈ properties, ∀ value,
      judge root more (.ofFields (fields property.2)) value =
        some (decide (Conforms property.2 value))
  | [] => ⟨0, by simp⟩
  | (name, schema) :: rest => by
      obtain ⟨depth, judged⟩ := exists_judge_fields schema
      obtain ⟨depth', others⟩ := exists_judge_properties rest
      refine ⟨max depth depth', fun more enough => ?_⟩
      rw [List.forall_mem_cons]
      exact ⟨judged more (by omega), others more (by omega)⟩

end

theorem judges_settingsDocument_iff {value : Value} {answer : Bool} :
    Judges settingsDocument value answer ↔ (answer = true ↔ Conforms settingsSchema value) := by
  have judged : Judges settingsDocument value (decide (Conforms settingsSchema value)) := by
    obtain ⟨depth, judged⟩ := exists_judge_fields settingsDocument settingsSchema
    refine ⟨depth, fun more enough => ?_⟩
    rw [← judged more enough value]
    cases more with
    | zero => rfl
    | succ more =>
        -- The two keywords before those of the schema are annotations.
        rw [settingsDocument, judge_ofFields, judge_ofFields, List.map_cons, List.map_cons]
        exact (every_cons_true _).trans (every_cons_true _)
  rw [← decide_eq_true_iff (p := Conforms settingsSchema value), ← Bool.eq_iff_iff]
  exact ⟨fun other => other.unique judged, fun same => same ▸ judged⟩

end Schema

/-! Each objection has words, unless what it is made to has no text. -/

theorem haveTexts_iff (items : List Value) :
    Value.haveTexts items = true ↔ ∀ item ∈ items, item.hasText = true := by
  induction items with
  | nil => simp [Value.haveTexts]
  | cons item rest inductionHypothesis => simp [Value.haveTexts, inductionHypothesis]

theorem entriesHaveTexts_iff (entries : List (Value × Value)) :
    Value.entriesHaveTexts entries = true ↔
      ∀ entry ∈ entries, entry.1.hasText = true ∧ entry.2.hasText = true := by
  induction entries with
  | nil => simp [Value.entriesHaveTexts]
  | cons entry rest inductionHypothesis => simp [Value.entriesHaveTexts, inductionHypothesis, and_assoc]

/-- The objection has words, or a value is to blame that has no text. -/
def Objection.IsAbout (objection : Objection) (value : Value) : Prop :=
  (∃ reason, objection.reason = .ok reason) ∨
    value.hasText = false ∧ objection.reason = .error (.numeral .unwritable)

theorem Objection.IsAbout.of_inside {objection : Objection} {inner outer : Value}
    (about : objection.IsAbout inner) (inside : outer.hasText = true → inner.hasText = true) :
    objection.IsAbout outer :=
  about.imp id fun ⟨textless, silent⟩ =>
    ⟨by simpa [textless] using mt inside, silent⟩

theorem isAbout_spoken {path : Path} {shown : List Value} {words : String} {value : Value}
    (inside : value.hasText = true → ∀ inner ∈ shown, inner.hasText = true) :
    Objection.IsAbout ⟨path, spoken shown words⟩ value := by
  by_cases texts : ∀ inner ∈ shown, inner.hasText = true
  · exact .inl ⟨words, if_pos (List.all_eq_true.mpr texts)⟩
  · refine .inr ⟨by simpa using mt inside texts, if_neg ?_⟩
    rwa [List.all_eq_true]

namespace Schema

theorem isAbout_typeReason (path : Path) (value : Value) (types : List String) :
    Objection.IsAbout ⟨path, typeReason value types⟩ value :=
  isAbout_spoken (by simp)

theorem isAbout_of_mem_choiceObjections {path : Path} {options : List String} {value : Value} :
    ∀ objection ∈ choiceObjections path options value, objection.IsAbout value := by
  have other : Objection.IsAbout ⟨path, choiceReason value options⟩ value := isAbout_spoken (by simp)
  unfold choiceObjections
  split <;> split <;> simp [isAbout_typeReason, other]

theorem isAbout_of_mem_entryObjections {path : Path} {names required : List String} {closed : Bool}
    {entries : List (Value × Value)} :
    ∀ objection ∈ entryObjections path names required closed entries,
      objection.IsAbout (.map entries) := by
  intro objection member
  rcases List.mem_append.mp member with missing | extra
  · obtain ⟨name, _, rfl⟩ := List.mem_map.mp missing
    exact .inl ⟨_, rfl⟩
  · split at extra
    · obtain rfl := List.mem_singleton.mp extra
      refine isAbout_spoken fun texts key isExtra => ?_
      have isKey : key ∈ entries.map (·.1) :=
        (List.mem_filter.mp ((List.mergeSort_perm _ _).mem_iff.mp isExtra)).1
      obtain ⟨entry, inside, rfl⟩ := List.mem_map.mp isKey
      exact ((entriesHaveTexts_iff entries).mp texts entry inside).1
    · cases extra

mutual

theorem isAbout_of_mem_objections : ∀ (schema : Schema) (path : Path) (value : Value),
    ∀ objection ∈ objections path schema value, objection.IsAbout value
  | .text nonempty, path, value => by
      cases value with
      | text s =>
          intro objection member
          simp only [objections] at member
          split at member
          · obtain rfl := List.mem_singleton.mp member
            exact .inl ⟨_, rfl⟩
          · cases member
      | _ => simp [objections, isAbout_typeReason]
  | .choice options, path, value => by
      rw [objections]
      exact isAbout_of_mem_choiceObjections
  | .textOrNull, path, value => by cases value <;> simp [objections, isAbout_typeReason]
  | .flag, path, value => by cases value <;> simp [objections, isAbout_typeReason]
  | .list items, path, value => by
      cases value with
      | list values =>
          intro objection member
          simp only [objections, List.mem_flatten, List.mem_map] at member
          obtain ⟨_, ⟨⟨item, position⟩, listed, rfl⟩, member⟩ := member
          refine (isAbout_of_mem_objections items _ item objection member).of_inside fun texts => ?_
          exact (haveTexts_iff values).mp texts item
            (List.mem_of_getElem? (List.mem_zipIdx_iff_getElem?.mp listed))
      | _ => simp [objections, isAbout_typeReason]
  | .map properties required closed, path, value => by
      cases value with
      | map entries =>
          intro objection member
          rw [objections, List.mem_append] at member
          exact member.elim (isAbout_of_mem_propertyObjections properties path entries objection)
            (isAbout_of_mem_entryObjections objection)
      | _ => simp [objections, isAbout_typeReason]

theorem isAbout_of_mem_propertyObjections : ∀ (properties : List (String × Schema)) (path : Path)
    (entries : List (Value × Value)),
    ∀ objection ∈ propertyObjections path entries properties, objection.IsAbout (.map entries)
  | [], path, entries => by simp [propertyObjections]
  | (name, schema) :: rest, path, entries => by
      intro objection member
      rw [propertyObjections, List.mem_append, List.mem_flatMap] at member
      rcases member with ⟨entry, under, member⟩ | member
      · refine (isAbout_of_mem_objections schema _ entry.2 objection member).of_inside fun texts => ?_
        exact ((entriesHaveTexts_iff entries).mp texts entry (List.mem_filter.mp under).1).2
      · exact isAbout_of_mem_propertyObjections rest path entries objection member

end

end Schema

theorem violations_of_isAbout {value : Value} {objections : List Objection}
    (about : ∀ objection ∈ objections, objection.IsAbout value) :
    (∃ violations, objections.mapM Objection.violation = .ok violations ∧
        (violations = [] ↔ objections = [])) ∨
      value.hasText = false ∧ objections.mapM Objection.violation = .error (.numeral .unwritable) := by
  induction objections with
  | nil => exact .inl ⟨[], rfl, by simp⟩
  | cons first rest inductionHypothesis =>
      obtain ⟨own, others⟩ := List.forall_mem_cons.mp about
      rw [List.mapM_cons]
      rcases own with ⟨reason, worded⟩ | ⟨textless, silent⟩
      · rw [Objection.violation, worded]
        rcases inductionHypothesis others with ⟨violations, all, _⟩ | ⟨textless, silent⟩
        · exact .inl ⟨⟨first.path, reason⟩ :: violations, by rw [all]; rfl, by simp⟩
        · exact .inr ⟨textless, by rw [silent]; rfl⟩
      · exact .inr ⟨textless, by rw [Objection.violation, silent]; rfl⟩

/-- The standard validator goes by the keywords of the settings' schema. -/
theorem Validator.standard_follows_settings : Validator.standard.Follows .settings := by
  constructor
  · intro value judged
    have conforms := (Schema.judges_settingsDocument_iff.mp judged).mp rfl
    rw [Validator.standard, (Schema.objections_eq_nil_iff settingsSchema [] value).mpr conforms]
    rfl
  · intro value judged
    have misfits := mt (Schema.judges_settingsDocument_iff.mp judged).mpr Bool.false_ne_true
    have objected := mt (Schema.objections_eq_nil_iff settingsSchema [] value).mp misfits
    rw [Validator.standard]
    rcases violations_of_isAbout (Schema.isAbout_of_mem_objections settingsSchema [] value) with
      ⟨violations, made, empty⟩ | ⟨textless, silent⟩
    · have some := mt (Violation.choose?_eq_none_iff violations).mp (mt empty.mp objected)
      obtain ⟨violation, chosen⟩ := Option.ne_none_iff_exists'.mp some
      exact .inl ⟨violation, by rw [made, ← chosen]; rfl⟩
    · exact .inr ⟨textless, by rw [silent]; rfl⟩

/-- The settings that pass the check are those that conform to their schema. -/
theorem validate_settings_eq_ok_iff {validator : Validator} (follows : validator.Follows .settings)
    (loading : Bool) (settings : Value) :
    validate validator loading settingsSchemaName settings = .ok () ↔
      Conforms settingsSchema settings := by
  have known : findSchema settingsSchemaName = .ok .settings := rfl
  simp only [validate_eq_ok_iff, known, Except.ok.injEq, exists_eq_left']
  by_cases conforms : Conforms settingsSchema settings
  · have judged := Schema.judges_settingsDocument_iff.mpr (iff_of_true (a := true = true) rfl conforms)
    exact iff_of_true (follows.accepts settings judged) conforms
  · have judged : Judges Schema.settingsDocument settings false :=
      Schema.judges_settingsDocument_iff.mpr (iff_of_false Bool.false_ne_true conforms)
    refine iff_of_false ?_ conforms
    rcases follows.refuses settings judged with ⟨violation, objected⟩ | ⟨_, failed⟩
    · simp [objected]
    · simp [failed]

end Stencil.Settings
