import Stencil.Proofs.Value.Entries
import Stencil.Settings.Validator

set_option autoImplicit false

/-!
What the keywords of a schema's document say of a value. A schema is a map from keywords to what they
demand, and a value is to meet all of them. Schemas may refer to others of the same document, so they
are judged to some depth; with more depth nothing is judged otherwise. A validator that goes by the
keywords accepts what meets them and objects to anything else.
-/

namespace Stencil.Settings

/-- Whether all of several judgements are in favour. -/
def every : List (Option Bool) → Option Bool
  | [] => some true
  | answer :: rest => do return (← answer) && (← every rest)

/-- How many of several judgements are in favour. -/
def howMany : List (Option Bool) → Option Nat
  | [] => some 0
  | answer :: rest => do return (← answer).toNat + (← howMany rest)

namespace Keywords

/-- The type that a value has in schemas. -/
def type? : Value → Option String
  | .text _ => some "string"
  | .bool _ => some "boolean"
  | .null => some "null"
  | .list _ => some "array"
  | .map _ => some "object"
  | _ => none

def isOfType? (value : Value) (type : String) : Option Bool :=
  if type ∈ ["string", "boolean", "null", "array", "object"] then some (type? value == some type)
  else none

def text? : Value → Option String
  | .text s => some s
  | _ => none

def texts? : Value → Option (List String)
  | .list items => items.mapM text?
  | _ => none

/-- The types that a schema allows: one, or several in a list. -/
def types? : Value → Option (List String)
  | .text type => some [type]
  | types => texts? types

/-- The entries of a map whose keys are texts. -/
def fields? : Value → Option (List (String × Value))
  | .map entries => entries.mapM fun entry => (text? entry.1).map fun name => (name, entry.2)
  | _ => none

def items : Value → List Value
  | .list items => items
  | _ => []

def entries : Value → List (Value × Value)
  | .map entries => entries
  | _ => []

/-- The definition that a reference names. -/
def definition? (root : Value) (reference : String) : Option Value :=
  ((Value.entry? "$defs" (entries root)).bind fields?).bind fun definitions =>
    (definitions.find? fun definition => reference == "#/$defs/" ++ definition.1).map (·.2)

/-- Whether a value meets a keyword, given the other keywords of the schema and what is judged by the
schemas in it. Lists are held against their items only, and maps against their entries. -/
def meets? (root : Value) (judge : Value → Value → Option Bool) (keywords : List (String × Value))
    (value : Value) : String × Value → Option Bool
  | ("type", types) => do return (← howMany ((← types? types).map (isOfType? value))) != 0
  | ("enum", options) => do return (← texts? options).any fun option => value.isText option
  | ("minLength", .int least) =>
      some ((text? value).all fun s => decide (least ≤ s.length))
  | ("items", schema) => every ((items value).map (judge schema))
  | ("properties", properties) => do
      every ((← fields? properties).map fun property =>
        every (((entries value).filter fun entry => entry.1.isText property.1).map fun entry =>
          judge property.2 entry.2))
  | ("required", names) => do
      return type? value != some "object" ||
        (← texts? names).all fun name => (entries value).any fun entry => entry.1.isText name
  | ("additionalProperties", .bool false) => do
      let properties ← (keywords.lookup "properties").elim (some []) fields?
      return (entries value).all fun entry =>
        properties.any fun property => entry.1.isText property.1
  | ("oneOf", .list schemas) => do
      return (← howMany (schemas.map fun schema => judge schema value)) == 1
  | ("$ref", .text reference) => do judge (← definition? root reference) value
  | ("$schema", _) | ("title", _) | ("$defs", _) => some true
  | _ => none

/-- Whether a value meets a schema, if that shows to some depth. -/
def judge (root : Value) : Nat → Value → Value → Option Bool
  | 0, _, _ => none
  | depth + 1, schema, value => do
      let keywords ← fields? schema
      every (keywords.map (meets? root (judge root depth) keywords value))

end Keywords

/-- The answer to whether a value meets a schema, from some depth on. -/
def Judges (document value : Value) (answer : Bool) : Prop :=
  ∃ depth, ∀ more, depth ≤ more → Keywords.judge document more document value = some answer

/-- The validator goes by the keywords of a schema. It may fail to object to a value that has no
text. -/
structure Validator.Follows (validator : Validator) (schema : KnownSchema) : Prop where
  accepts : ∀ value, Judges schema.document value true → validator schema value = .ok none
  refuses : ∀ value, Judges schema.document value false →
    (∃ violation, validator schema value = .ok (some violation)) ∨
      value.hasText = false ∧ validator schema value = .error (.numeral .unwritable)

@[simp] theorem every_cons_true (answers : List (Option Bool)) :
    every (some true :: answers) = every answers := by
  cases answer : every answers <;> simp [every, answer]

theorem Judges.unique {document value : Value} {one other : Bool} (first : Judges document value one)
    (second : Judges document value other) : one = other := by
  obtain ⟨depth, judged⟩ := first
  obtain ⟨depth', judged'⟩ := second
  exact Option.some.inj ((judged _ (Nat.le_max_left _ _)).symm.trans (judged' _ (Nat.le_max_right _ _)))

namespace Keywords

theorem mapM_text? (names : List String) : (names.map Value.text).mapM text? = some names := by
  induction names with
  | nil => rfl
  | cons name rest inductionHypothesis => simp [text?, inductionHypothesis]

@[simp] theorem texts?_texts (names : List String) : texts? (Schema.texts names) = some names :=
  mapM_text? names

@[simp] theorem types?_texts (names : List String) : types? (Schema.texts names) = some names :=
  mapM_text? names

@[simp] theorem fields?_ofFields (fields : List (String × Value)) :
    fields? (.ofFields fields) = some fields := by
  rw [Value.ofFields, fields?]
  induction fields with
  | nil => rfl
  | cons field rest inductionHypothesis =>
      rw [List.map_cons, List.mapM_cons, inductionHypothesis]
      rfl

/-! What each keyword asks. -/

section Keyword

variable (root : Value) (judgement : Value → Value → Option Bool)
  (keywords : List (String × Value)) (value : Value)

theorem meets?_types (types : Value) : meets? root judgement keywords value ("type", types) =
    (types? types).bind fun allowed =>
      (howMany (allowed.map (isOfType? value))).bind fun met => some (met != 0) := rfl

theorem meets?_options (options : Value) :
    meets? root judgement keywords value ("enum", options) =
      (texts? options).bind fun texts => some (texts.any fun option => value.isText option) := rfl

theorem meets?_least (least : Int) :
    meets? root judgement keywords value ("minLength", .int least) =
      some ((text? value).all fun s => decide (least ≤ s.length)) := rfl

theorem meets?_items (schema : Value) :
    meets? root judgement keywords value ("items", schema) =
      every ((items value).map (judgement schema)) := rfl

theorem meets?_fields (properties : Value) :
    meets? root judgement keywords value ("properties", properties) =
      (fields? properties).bind fun listed => every (listed.map fun property =>
        every (((entries value).filter fun entry => entry.1.isText property.1).map fun entry =>
          judgement property.2 entry.2)) := rfl

theorem meets?_names (names : Value) :
    meets? root judgement keywords value ("required", names) =
      (texts? names).bind fun required => some (type? value != some "object" ||
        required.all fun name => (entries value).any fun entry => entry.1.isText name) := rfl

theorem meets?_closed :
    meets? root judgement keywords value ("additionalProperties", .bool false) =
      ((keywords.lookup "properties").elim (some []) fields?).bind fun properties =>
        some ((entries value).all fun entry =>
          properties.any fun property => entry.1.isText property.1) := rfl

theorem meets?_oneOf (schemas : List Value) :
    meets? root judgement keywords value ("oneOf", .list schemas) =
      (howMany (schemas.map fun schema => judgement schema value)).bind fun met =>
        some (met == 1) := rfl

theorem meets?_reference (reference : String) :
    meets? root judgement keywords value ("$ref", .text reference) =
      (definition? root reference).bind fun schema => judgement schema value := rfl

end Keyword

theorem judge_ofFields (root : Value) (depth : Nat) (fields : List (String × Value)) (value : Value) :
    judge root (depth + 1) (.ofFields fields) value =
      every (fields.map (meets? root (judge root depth) fields value)) := by
  rw [judge, fields?_ofFields]
  rfl

section Judgements

open Classical

theorem every_map {α : Type} {judgement : α → Option Bool} {xs : List α} (property : α → Prop)
    (judged : ∀ x ∈ xs, judgement x = some (decide (property x))) :
    every (xs.map judgement) = some (decide (∀ x ∈ xs, property x)) := by
  induction xs with
  | nil => simp [every]
  | cons x rest inductionHypothesis =>
      obtain ⟨first, others⟩ := List.forall_mem_cons.mp judged
      simp [every, first, inductionHypothesis others]

@[simp] theorem meets?_type (root : Value) (judgement : Value → Value → Option Bool)
    (keywords : List (String × Value)) (value : Value) (type : String) :
    meets? root judgement keywords value ("type", .text type) = isOfType? value type := by
  cases answer : isOfType? value type with
  | none => simp [meets?_types, types?, howMany, answer]
  | some answer' => cases answer' <;> simp [meets?_types, types?, howMany, answer]

theorem isOfType?_object (value : Value) :
    isOfType? value "object" = some (decide (∃ entries, value = .map entries)) := by
  cases value <;> simp [isOfType?, type?]

theorem meets?_enum (root : Value) (judgement : Value → Value → Option Bool)
    (keywords : List (String × Value)) (value : Value) (options : List String) :
    meets? root judgement keywords value ("enum", Schema.texts options) =
      some (decide (∃ s ∈ options, value = .text s)) := by
  have chosen : (options.any fun option => value.isText option) =
      decide (∃ s ∈ options, value = .text s) := by
    rw [Bool.eq_iff_iff]
    simp [Value.isText_iff]
  rw [← chosen]
  simp [meets?_options]

theorem meets?_minLength (root : Value) (judgement : Value → Value → Option Bool)
    (keywords : List (String × Value)) (value : Value) :
    meets? root judgement keywords value ("minLength", .int 1) =
      some (decide (value ≠ .text "")) := by
  have long (s : String) : (1 : Int) ≤ s.length ↔ s ≠ "" := by
    rw [ne_eq, ← String.length_eq_zero_iff]
    omega
  cases value <;> simp [meets?_least, text?, long]

variable {root value : Value} {depth : Nat} {properties : List (String × Value)}
  {required : List String} {closed : Bool} {suits : String × Value → Value → Prop}

/-- What is under the properties is judged by their schemas. -/
theorem meets?_properties (keywords : List (String × Value)) {entries : List (Value × Value)}
    (judged : ∀ property ∈ properties, ∀ inner, (.text property.1, inner) ∈ entries →
      judge root depth property.2 inner = some (decide (suits property inner))) :
    meets? root (judge root depth) keywords (.map entries) ("properties", .ofFields properties) =
      some (decide (∀ property ∈ properties, ∀ inner, (.text property.1, inner) ∈ entries →
        suits property inner)) := by
  have each : ∀ property ∈ properties,
      every ((entries.filter fun entry => entry.1.isText property.1).map fun entry =>
        judge root depth property.2 entry.2) =
      some (decide (∀ inner, (.text property.1, inner) ∈ entries → suits property inner)) := by
    intro property listed
    rw [every_map fun entry : Value × Value => suits property entry.2]
    · congr 1
      simp only [decide_eq_decide, List.mem_filter]
      constructor
      · intro all inner member
        exact all _ ⟨member, Value.isText_text⟩
      · rintro all ⟨key, inner⟩ ⟨member, isText⟩
        exact all inner (Value.eq_text_of_isText isText ▸ member)
    · rintro ⟨key, inner⟩ member
      obtain ⟨member, isText⟩ := List.mem_filter.mp member
      exact judged property listed inner (Value.eq_text_of_isText isText ▸ member)
  simp only [meets?_fields, fields?_ofFields, Option.bind_some]
  exact every_map _ each

theorem meets?_required {keywords : List (String × Value)} {judgement : Value → Value → Option Bool}
    {entries : List (Value × Value)} :
    meets? root judgement keywords (.map entries) ("required", Schema.texts required) =
      some (decide (∀ name ∈ required, ∃ inner, (.text name, inner) ∈ entries)) := by
  have all : (required.all fun name => entries.any fun entry => entry.1.isText name) =
      decide (∀ name ∈ required, ∃ inner, (.text name, inner) ∈ entries) := by
    rw [Bool.eq_iff_iff]
    simp [Value.isText_iff]
  rw [← all]
  simp [meets?_names, type?, Keywords.entries]

theorem meets?_additionalProperties {keywords : List (String × Value)}
    {judgement : Value → Value → Option Bool} {entries : List (Value × Value)}
    (listed : keywords.lookup "properties" = some (.ofFields properties)) :
    meets? root judgement keywords (.map entries) ("additionalProperties", .bool false) =
      some (decide (∀ entry ∈ entries, ∃ property ∈ properties, entry.1 = .text property.1)) := by
  have all : (entries.all fun entry => properties.any fun property => entry.1.isText property.1) =
      decide (∀ entry ∈ entries, ∃ property ∈ properties, entry.1 = .text property.1) := by
    rw [Bool.eq_iff_iff]
    simp [Value.isText_iff]
  rw [← all]
  simp [meets?_closed, listed, Keywords.entries]

theorem entries_of_not_map (other : ∀ entries, value ≠ .map entries) : Keywords.entries value = [] := by
  cases value with
  | map entries => exact absurd rfl (other entries)
  | _ => rfl

theorem meets?_properties_of_not_map {keywords : List (String × Value)}
    (other : ∀ entries, value ≠ .map entries) :
    meets? root (judge root depth) keywords value ("properties", .ofFields properties) = some true := by
  have each : ∀ property ∈ properties,
      every (((Keywords.entries value).filter fun entry => entry.1.isText property.1).map fun entry =>
        judge root depth property.2 entry.2) = some true := by
    intro property _
    rw [entries_of_not_map other]
    rfl
  simp only [meets?_fields, fields?_ofFields, Option.bind_some]
  rw [every_map (fun _ => True) fun property listed => (each property listed).trans (by simp)]
  simp

theorem meets?_required_of_not_map {keywords : List (String × Value)}
    {judgement : Value → Value → Option Bool} (other : ∀ entries, value ≠ .map entries) :
    meets? root judgement keywords value ("required", Schema.texts required) = some true := by
  have apart : type? value ≠ some "object" := by
    cases value with
    | map entries => exact absurd rfl (other entries)
    | _ => simp [type?]
  simp [meets?_names, apart]

theorem meets?_additionalProperties_of_not_map {keywords : List (String × Value)}
    {judgement : Value → Value → Option Bool} (other : ∀ entries, value ≠ .map entries)
    (listed : keywords.lookup "properties" = some (.ofFields properties)) :
    meets? root judgement keywords value ("additionalProperties", .bool false) = some true := by
  simp [meets?_closed, listed, entries_of_not_map other]

/-- An object has what is required, its properties suit their schemas, and if it is closed there is
nothing besides. -/
theorem judge_objectFields (suits : String × Value → Value → Prop)
    (judged : ∀ property ∈ properties, ∀ entries inner, value = .map entries →
      (.text property.1, inner) ∈ entries →
      judge root depth property.2 inner = some (decide (suits property inner))) :
    judge root (depth + 1) (.ofFields (Schema.objectFields properties required closed)) value =
      some (decide (∃ entries, value = .map entries ∧
        (∀ property ∈ properties, ∀ inner, (.text property.1, inner) ∈ entries →
          suits property inner) ∧
        (∀ name ∈ required, ∃ inner, (.text name, inner) ∈ entries) ∧
        (closed = true → ∀ entry ∈ entries, ∃ property ∈ properties,
          entry.1 = .text property.1))) := by
  have typed : ∀ keywords, meets? root (judge root depth) keywords value ("type", .text "object") =
      some (decide (∃ entries, value = .map entries)) := by
    intro keywords
    rw [meets?_type, isOfType?_object]
  rw [judge_ofFields]
  by_cases isMap : ∃ entries, value = .map entries
  · obtain ⟨entries, rfl⟩ := isMap
    have suiting := fun keywords => meets?_properties keywords
      fun property listed inner => judged property listed entries inner rfl
    cases closed with
    | false => simp [Schema.objectFields, every, typed, suiting, meets?_required]
    | true =>
        have alone : meets? root (judge root depth) (Schema.objectFields properties required true)
            (.map entries) ("additionalProperties", .bool false) = some (decide (∀ entry ∈ entries,
              ∃ property ∈ properties, entry.1 = .text property.1)) :=
          meets?_additionalProperties rfl
        simp only [Schema.objectFields, if_true, List.cons_append, List.nil_append] at alone
        simp [Schema.objectFields, every, typed, suiting, meets?_required, alone]
  · -- All other keywords are about maps only, so the type alone decides.
    have none : ∀ entries, value ≠ .map entries := not_exists.mp isMap
    have suiting : ∀ keywords, meets? root (judge root depth) keywords value
        ("properties", .ofFields properties) = some true := fun _ => meets?_properties_of_not_map none
    have complete : ∀ keywords, meets? root (judge root depth) keywords value
        ("required", Schema.texts required) = some true := fun _ => meets?_required_of_not_map none
    cases closed with
    | false => simp [Schema.objectFields, every, typed, suiting, complete, none]
    | true =>
        have alone : meets? root (judge root depth) (Schema.objectFields properties required true) value
            ("additionalProperties", .bool false) = some true :=
          meets?_additionalProperties_of_not_map none rfl
        simp only [Schema.objectFields, if_true, List.cons_append, List.nil_append] at alone
        simp [Schema.objectFields, every, typed, suiting, complete, alone, none]

/-- The items of an array suit the schema of items. -/
theorem judge_array {schema : Value} (suits : Value → Prop)
    (judged : ∀ items item, value = .list items → item ∈ items →
      judge root depth schema item = some (decide (suits item))) :
    judge root (depth + 1) (.ofFields [("type", .text "array"), ("items", schema)]) value =
      some (decide (∃ items, value = .list items ∧ ∀ item ∈ items, suits item)) := by
  rw [judge_ofFields]
  cases value with
  | list items =>
      have all := every_map _ fun item member => judged items item rfl member
      simp [every, howMany, meets?_types, meets?_items, types?, isOfType?, type?, Keywords.items, all]
  | _ =>
      simp [every, howMany, meets?_types, meets?_items, types?, isOfType?, type?, Keywords.items]

end Judgements

end Keywords
end Stencil.Settings
