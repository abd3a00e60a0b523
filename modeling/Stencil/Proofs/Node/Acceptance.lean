import Mathlib.Data.List.Nodup
import Stencil.Proofs.Node.Grammar
import Stencil.Proofs.Settings.Keywords

set_option autoImplicit false

/-!
The document of the templates' schema describes the grammar: a value meets its keywords just if it is
a member. So a validator that goes by them passes just the members, each of which is read as the
template of its structure, and the standard validator is such a one.
-/

namespace Stencil.Node
open Settings

namespace Form

variable {form : Form} {entries : List (Value × Value)}

theorem eq_of_names {rule other : String × (Value → Prop)} (distinct : (form.allowed.map (·.1)).Nodup)
    (one : rule ∈ form.allowed) (two : other ∈ form.allowed) (same : rule.1 = other.1) :
    rule = other :=
  List.inj_on_of_nodup_map distinct one two same

/-- With one rule for each key, a map fits if all under the key of a rule keeps to it. -/
theorem fits_iff (distinct : (form.allowed.map (·.1)).Nodup) :
    form.Fits entries ↔
      (∀ rule ∈ form.allowed, ∀ inner, (.text rule.1, inner) ∈ entries → rule.2 inner) ∧
        (∀ key ∈ form.required, ∃ inner, (.text key, inner) ∈ entries) ∧
        ∀ entry ∈ entries, ∃ rule ∈ form.allowed, entry.1 = .text rule.1 := by
  constructor
  · intro fits
    refine ⟨fun rule isRule inner member => ?_, fits.required, fun entry member => ?_⟩
    · obtain ⟨other, isOther, same, kept⟩ := fits.allowed _ member
      rwa [eq_of_names distinct isRule isOther (Value.text.inj same)]
    · obtain ⟨rule, isRule, same, _⟩ := fits.allowed entry member
      exact ⟨rule, isRule, same⟩
  · rintro ⟨kept, required, known⟩
    refine ⟨required, fun entry member => ?_⟩
    obtain ⟨rule, isRule, same⟩ := known entry member
    exact ⟨rule, isRule, same, kept rule isRule entry.2 (same ▸ member)⟩

end Form

section Judgements

open Classical Keywords

variable {root value : Value} {depth : Nat}

theorem judge_form (form : Form) {properties : List (String × Value)}
    (named : properties.map (·.1) = form.allowed.map (·.1))
    (distinct : (form.allowed.map (·.1)).Nodup)
    (judged : ∀ property ∈ properties, ∀ rule ∈ form.allowed, rule.1 = property.1 →
      ∀ entries inner, value = .map entries → (.text rule.1, inner) ∈ entries →
      judge root depth property.2 inner = some (decide (rule.2 inner))) :
    judge root (depth + 1) (Schema.nodeForm properties form.required) value =
      some (decide (∃ entries, value = .map entries ∧ form.Fits entries)) := by
  have listed (name : String) :
      (∃ property ∈ properties, property.1 = name) ↔ ∃ rule ∈ form.allowed, rule.1 = name := by
    simpa only [List.mem_map] using iff_of_eq (congrArg (name ∈ ·) named)
  rw [Schema.nodeForm, judge_objectFields fun property inner =>
    ∀ rule ∈ form.allowed, rule.1 = property.1 → rule.2 inner]
  · congr 1
    rw [decide_eq_decide]
    refine exists_congr fun entries => and_congr_right fun _ => ?_
    rw [Form.fits_iff distinct]
    refine and_congr ?_ (and_congr_right fun _ => ?_)
    · constructor
      · intro kept rule isRule inner member
        obtain ⟨property, isProperty, same⟩ := (listed rule.1).mpr ⟨rule, isRule, rfl⟩
        exact kept property isProperty inner (same ▸ member) rule isRule same.symm
      · intro kept property _ inner member rule isRule same
        exact kept rule isRule inner (same ▸ member)
    · have known (key : Value) : (∃ property ∈ properties, key = .text property.1) ↔
          ∃ rule ∈ form.allowed, key = .text rule.1 := by
        constructor
        · rintro ⟨property, isProperty, rfl⟩
          obtain ⟨rule, isRule, same⟩ := (listed property.1).mp ⟨property, isProperty, rfl⟩
          exact ⟨rule, isRule, by rw [same]⟩
        · rintro ⟨rule, isRule, rfl⟩
          obtain ⟨property, isProperty, same⟩ := (listed rule.1).mpr ⟨rule, isRule, rfl⟩
          exact ⟨property, isProperty, by rw [same]⟩
      simp only [known, true_imp_iff]
  · intro property isProperty entries inner whole member
    obtain ⟨rule, isRule, same⟩ := (listed property.1).mp ⟨property, isProperty, rfl⟩
    rw [judged property isProperty rule isRule same entries inner whole (same ▸ member)]
    congr 1
    rw [decide_eq_decide]
    refine ⟨fun kept other isOther alike => ?_, fun all => all rule isRule same⟩
    rwa [Form.eq_of_names distinct isOther isRule (alike.trans same.symm)]

theorem judge_typed_string :
    judge root (depth + 1) (Schema.typed "string") value = some (decide (IsText value)) := by
  rw [Schema.typed, judge_ofFields]
  cases value <;> simp [every, isOfType?, type?, IsText]

theorem judge_typed_boolean :
    judge root (depth + 1) (Schema.typed "boolean") value = some (decide (IsFlag value)) := by
  rw [Schema.typed, judge_ofFields]
  cases value <;> simp [every, isOfType?, type?, IsFlag]

theorem judge_nonemptyText :
    judge root (depth + 1) Schema.nonemptyText value = some (decide (IsPath value)) := by
  rw [Schema.nonemptyText, judge_ofFields]
  have path (s : String) : IsPath (.text s) ↔ s ≠ "" := by
    rw [← isNonemptyText_iff]
    simp [isNonemptyText]
  cases value with
  | text s => simp [every, isOfType?, type?, meets?_minLength, path]
  | _ => simp [every, isOfType?, type?, meets?_minLength, IsPath]

theorem judge_reference {name : String} {schema : Value}
    (defined : definition? root ("#/$defs/" ++ name) = some schema) :
    judge root (depth + 1) (Schema.reference name) value = judge root depth schema value := by
  rw [Schema.reference, judge_ofFields]
  simp [every, meets?_reference, defined]

theorem definition?_sequence : definition? Schema.templateDocument ("#/$defs/" ++ "sequence") =
    some Schema.sequenceSchema := by
  have there : Value.entry? "$defs" (entries Schema.templateDocument) =
      some (.ofFields [("sequence", Schema.sequenceSchema), ("node", Schema.nodeSchema)]) := rfl
  simp [definition?, there]

theorem definition?_node : definition? Schema.templateDocument ("#/$defs/" ++ "node") =
    some Schema.nodeSchema := by
  have there : Value.entry? "$defs" (entries Schema.templateDocument) =
      some (.ofFields [("sequence", Schema.sequenceSchema), ("node", Schema.nodeSchema)]) := rfl
  simp [definition?, there]

/-- A list of members. -/
def IsSequence (value : Value) : Prop := ∃ items, value = .list items ∧ ∀ item ∈ items, InGrammar item

/-- The form of blocks, with what is in their bodies. -/
def writtenBlockForm : Form :=
  ⟨["section", "body"], [("section", IsPath), ("invert", IsFlag), ("body", IsSequence)]⟩

theorem writtenBlockForm_fits_iff {entries : List (Value × Value)} :
    writtenBlockForm.Fits entries ↔ blockForm.Fits entries ∧
      ∀ items, (.text "body", .list items) ∈ entries → ∀ item ∈ items, InGrammar item := by
  rw [Form.fits_iff (by decide), Form.fits_iff (by decide)]
  simp only [writtenBlockForm, blockForm, List.forall_mem_cons, List.exists_mem_cons_iff, IsSequence,
    IsList]
  grind

/-- A map of one form does not have a key that only the other requires. -/
theorem Form.Fits.excludes {form other : Form} {entries : List (Value × Value)} (key : String)
    (fits : form.Fits entries) (required : key ∈ other.required)
    (unknown : ∀ rule ∈ form.allowed, rule.1 ≠ key) : ¬other.Fits entries := by
  intro others
  obtain ⟨value, found⟩ := others.exists_found key required
  rw [fits.absent unknown] at found
  cases found

theorem judge_sequence
    (judged : ∀ items item, value = .list items → item ∈ items →
      judge Schema.templateDocument depth Schema.nodeSchema item = some (decide (InGrammar item))) :
    judge Schema.templateDocument (depth + 3) (Schema.reference "sequence") value =
      some (decide (IsSequence value)) := by
  rw [judge_reference definition?_sequence, Schema.sequenceSchema,
    judge_array InGrammar fun items item whole member => ?_]
  · rfl
  · rw [judge_reference definition?_node]
    exact judged items item whole member

theorem inGrammar_list_iff {items : List Value} :
    InGrammar (.list items) ↔ ∀ item ∈ items, InGrammar item :=
  ⟨fun | .list all => all, .list⟩

theorem inGrammar_map_iff {entries : List (Value × Value)} :
    InGrammar (.map entries) ↔ literalForm.Fits entries ∨ placeholderForm.Fits entries ∨
      writtenBlockForm.Fits entries := by
  rw [writtenBlockForm_fits_iff]
  constructor
  · rintro (_ | _ | fits | fits | ⟨fits, bodies⟩)
    · exact .inl fits
    · exact .inr (.inl fits)
    · exact .inr (.inr ⟨fits, bodies⟩)
  · rintro (fits | fits | ⟨fits, bodies⟩)
    · exact .literal fits
    · exact .placeholder fits
    · exact .block fits bodies

theorem judge_literal :
    judge root (depth + 2) Schema.literalSchema value =
      some (decide (∃ entries, value = .map entries ∧ literalForm.Fits entries)) := by
  rw [Schema.literalSchema]
  refine judge_form literalForm rfl (by decide) ?_
  simp [literalForm, judge_typed_string]

theorem judge_placeholder :
    judge root (depth + 2) Schema.placeholderSchema value =
      some (decide (∃ entries, value = .map entries ∧ placeholderForm.Fits entries)) := by
  rw [Schema.placeholderSchema]
  refine judge_form placeholderForm rfl (by decide) ?_
  simp [placeholderForm, judge_nonemptyText, judge_typed_boolean]

theorem judge_block
    (judged : ∀ entries items item, value = .map entries → (.text "body", .list items) ∈ entries →
      item ∈ items → judge Schema.templateDocument depth Schema.nodeSchema item =
        some (decide (InGrammar item))) :
    judge Schema.templateDocument (depth + 4) Schema.blockSchema value =
      some (decide (∃ entries, value = .map entries ∧ writtenBlockForm.Fits entries)) := by
  have body : ∀ entries inner, value = .map entries → (.text "body", inner) ∈ entries →
      judge Schema.templateDocument (depth + 3) (Schema.reference "sequence") inner =
        some (decide (IsSequence inner)) := by
    intro entries inner whole member
    refine judge_sequence fun items item list inside => ?_
    exact judged entries items item whole (list ▸ member) inside
  rw [Schema.blockSchema]
  refine judge_form writtenBlockForm rfl (by decide) ?_
  simpa [writtenBlockForm, judge_nonemptyText, judge_typed_boolean] using body

theorem toNat_beq_one (b : Bool) : (b.toNat == 1) = b := by cases b <;> rfl

/-- A value meets the schema of nodes just if it is a member, if that is so of what is in it. -/
theorem judge_nodeSchema
    (items : ∀ items item, value = .list items → item ∈ items →
      judge Schema.templateDocument (depth + 1) Schema.nodeSchema item =
        some (decide (InGrammar item)))
    (bodies : ∀ entries items item, value = .map entries → (.text "body", .list items) ∈ entries →
      item ∈ items → judge Schema.templateDocument depth Schema.nodeSchema item =
        some (decide (InGrammar item))) :
    judge Schema.templateDocument (depth + 5) Schema.nodeSchema value =
      some (decide (InGrammar value)) := by
  have sequence := judge_sequence items
  have block := judge_block bodies
  rw [Schema.nodeSchema, judge_ofFields]
  simp only [List.map_cons, List.map_nil, meets?_oneOf, howMany, judge_typed_string, sequence,
    judge_literal, judge_placeholder, block]
  cases value with
  | text s => simp [every, IsText, IsSequence, InGrammar.text]
  | list items => simp [every, IsText, IsSequence, inGrammar_list_iff, toNat_beq_one]
  | map entries =>
      -- The forms exclude each other, so the judgements in favour are one at most.
      simp only [every, IsText, IsSequence, inGrammar_map_iff]
      by_cases literal : literalForm.Fits entries
      · have noPlaceholder : ¬placeholderForm.Fits entries :=
          literal.excludes "placeholder" (by decide) (by simp [literalForm])
        have noBlock : ¬writtenBlockForm.Fits entries :=
          literal.excludes "section" (by decide) (by simp [literalForm])
        simp [literal, noPlaceholder, noBlock]
      · by_cases placeholder : placeholderForm.Fits entries
        · have noBlock : ¬writtenBlockForm.Fits entries :=
            placeholder.excludes "section" (by decide) (by simp [placeholderForm])
          simp [literal, placeholder, noBlock]
        · simp [literal, placeholder, toNat_beq_one]
  | _ =>
      simp [every, IsText, IsSequence]
      intro grammatical
      cases grammatical

theorem judge_nodeSchema_of_depth : ∀ (value : Value) (depth : Nat), 4 * sizeOf value ≤ depth →
    judge Schema.templateDocument (depth + 5) Schema.nodeSchema value =
      some (decide (InGrammar value))
  | value, depth, deep => by
      refine judge_nodeSchema ?_ ?_
      · intro items item whole inside
        have smaller := List.sizeOf_lt_of_mem inside
        have size : sizeOf value = 1 + sizeOf items := by rw [whole, Value.list.sizeOf_spec]
        obtain ⟨less, rfl⟩ := Nat.exists_eq_add_of_le' (show 4 ≤ depth by omega)
        exact judge_nodeSchema_of_depth item less (by omega)
      · intro entries items item whole member inside
        have smaller := List.sizeOf_lt_of_mem inside
        have body : sizeOf items < sizeOf entries := by
          have entry := List.sizeOf_lt_of_mem member
          simp only [Prod.mk.sizeOf_spec, Value.list.sizeOf_spec] at entry
          omega
        have size : sizeOf value = 1 + sizeOf entries := by rw [whole, Value.map.sizeOf_spec]
        obtain ⟨less, rfl⟩ := Nat.exists_eq_add_of_le' (show 5 ≤ depth by omega)
        exact judge_nodeSchema_of_depth item less (by omega)
termination_by value => sizeOf value
decreasing_by all_goals omega

theorem judges_templateDocument_iff {answer : Bool} :
    Judges Schema.templateDocument value answer ↔ (answer = true ↔ InGrammar value) := by
  have judged : Judges Schema.templateDocument value (decide (InGrammar value)) := by
    refine ⟨4 * sizeOf value + 6, fun more enough => ?_⟩
    obtain ⟨depth, rfl⟩ := Nat.exists_eq_add_of_le' (show 6 ≤ more by omega)
    have node := judge_nodeSchema_of_depth value depth (by omega)
    -- Beside the reference there are annotations only.
    have referred : meets? Schema.templateDocument
        (judge Schema.templateDocument (depth + 5)) [] value ("$ref", .text "#/$defs/node") =
          some (decide (InGrammar value)) := by
      have found : definition? Schema.templateDocument "#/$defs/node" = some Schema.nodeSchema :=
        definition?_node
      rw [meets?_reference, found]
      exact node
    have whole : judge Schema.templateDocument (depth + 6) Schema.templateDocument value =
        every [some true, some true, some (decide (InGrammar value)), some true] := by
      rw [← referred]
      exact judge_ofFields _ _ _ _
    rw [whole]
    simp [every]
  rw [← decide_eq_true_iff (p := InGrammar value), ← Bool.eq_iff_iff]
  exact ⟨fun other => other.unique judged, fun same => same ▸ judged⟩

end Judgements

/-- The standard validator goes by the keywords of the templates' schema. -/
theorem standard_follows_template : Validator.standard.Follows .template := by
  constructor
  · intro value judged
    have grammatical := (judges_templateDocument_iff.mp judged).mp rfl
    rw [Validator.standard, if_pos grammatical.isWritten]
  · intro value judged
    have foreign := mt (judges_templateDocument_iff.mp judged).mpr Bool.false_ne_true
    rw [Validator.standard, if_neg fun written => foreign (inGrammar_of_isWritten written)]
    by_cases texts : value.hasText = true
    · exact .inl ⟨⟨[], grammarReason value⟩, by simp [spoken, texts]⟩
    · refine .inr ⟨by simpa using texts, ?_⟩
      simp [spoken, texts]

section Following

variable {validator : Validator} (follows : validator.Follows .template)
include follows

theorem ofValue_of_inGrammar {value : Value} (grammatical : InGrammar value) :
    ofValue validator value = build value := by
  have judged : Judges Schema.templateDocument value true :=
    judges_templateDocument_iff.mpr (iff_of_true rfl grammatical)
  rw [ofValue, follows.accepts value judged]
  rfl

theorem IsFormOf.ofValue_eq_ok {value : Value} {node : Node} (form : IsFormOf value node) :
    ofValue validator value = .ok node := by
  rw [ofValue_of_inGrammar follows form.grammatical,
    build_of_describes form.grammatical node form.describes]

/-- What is no member is refused as a template, unless it has no text and so cannot be shown. -/
theorem ofValue_of_not_inGrammar {value : Value} (foreign : ¬InGrammar value) :
    ∃ fault, ofValue validator value = .error fault ∧
      (fault.family? = some .template ∨
        value.hasText = false ∧ fault = .numeral .unwritable) := by
  have judged : Judges Schema.templateDocument value false :=
    judges_templateDocument_iff.mpr (iff_of_false Bool.false_ne_true foreign)
  rcases follows.refuses value judged with ⟨violation, objected⟩ | ⟨textless, failed⟩
  · exact ⟨_, by rw [ofValue, objected]; rfl, .inl (Fault.family?_template _)⟩
  · exact ⟨_, by rw [ofValue, failed]; rfl, .inr ⟨textless, rfl⟩⟩

/-- Just the members of the grammar are accepted, each for the template of its structure. Any other
value that has a text is refused as a template; of one that has none, the refusal cannot be put into
words. -/
theorem ofValue_eq_ok_iff_inGrammar (value : Value) :
    ((∃ node, ofValue validator value = .ok node) ↔ InGrammar value) ∧
      (∀ node, ofValue validator value = .ok node ↔ InGrammar value ∧ Describes value node) ∧
      (¬InGrammar value → ∃ fault, ofValue validator value = .error fault ∧
        (fault.family? = some .template ∨
          value.hasText = false ∧ fault = .numeral .unwritable)) := by
  by_cases grammatical : InGrammar value
  · obtain ⟨described, describes⟩ := exists_describes grammatical
    have built := (IsFormOf.mk grammatical describes).ofValue_eq_ok follows
    refine ⟨iff_of_true ⟨described, built⟩ grammatical, fun node => ?_, absurd grammatical⟩
    constructor
    · intro accepted
      obtain rfl : described = node := Except.ok.inj (built.symm.trans accepted)
      exact ⟨grammatical, describes⟩
    · rintro ⟨_, describes'⟩
      exact (IsFormOf.mk grammatical describes').ofValue_eq_ok follows
  · have refused := ofValue_of_not_inGrammar follows grammatical
    have ⟨fault, failed, _⟩ := refused
    refine ⟨?_, fun node => ?_, fun _ => refused⟩
    · simp [failed, grammatical]
    · simp [failed, grammatical]

end Following

/-- A heading, and what a dish is called. -/
def headedDish : Value := .list [.text "Dish: ", .ofFields [("placeholder", .text "dish.called")]]

def headedDishNode : Node :=
  .sequence [.literal "Dish: ", .placeholder ⟨"dish.called", by decide⟩ (.bool false)]

theorem headedDish_described :
    Validator.standard.Follows .template ∧
      ofValue .standard headedDish = .ok headedDishNode ∧
      InGrammar headedDish ∧ Describes headedDish headedDishNode :=
  have follows := standard_follows_template
  have read : ofValue .standard headedDish = .ok headedDishNode := rfl
  ⟨follows, read, ((ofValue_eq_ok_iff_inGrammar follows headedDish).2.1 headedDishNode).mp read⟩

/-- A number of more digits than a numeral may have, which is no template. -/
def longNumber : Value := .int (Int.ofNat (Nat.pow 16 4000 - 1))

theorem digitCount_le_iff {limit : Nat} (positive : 0 < limit) (n : Nat) :
    Number.digitCount n ≤ limit ↔ n < Nat.pow 10 limit := by
  rw [Number.digitCount, Number.decimalDigits, Nat.pow_eq]
  exact Nat.length_toDigits_le_iff (by decide) positive

theorem isShort_iff (n : Int) :
    Value.isShort n = true ↔ n.natAbs < Nat.pow 10 Text.numeralLimit :=
  decide_eq_true_iff.trans (digitCount_le_iff (by decide) n.natAbs)

theorem longNumber_hasText : longNumber.hasText = false := by
  have long : ¬(Int.ofNat (Nat.pow 16 4000 - 1)).natAbs < Nat.pow 10 Text.numeralLimit := by
    decide +kernel
  exact Bool.eq_false_iff.mpr (mt (isShort_iff _).mp long)

theorem longNumber_not_refused :
    ¬InGrammar longNumber ∧
      ¬∃ fault, ofValue .standard longNumber = .error fault ∧ fault.family? = some .template := by
  have failed : ofValue .standard longNumber = .error (.numeral .unwritable) := by
    rw [ofValue, Validator.standard, spoken]
    simp [longNumber_hasText]
    rfl
  refine ⟨nofun, ?_⟩
  rintro ⟨fault, refused, family⟩
  cases failed.symm.trans refused
  cases family

end Stencil.Node
