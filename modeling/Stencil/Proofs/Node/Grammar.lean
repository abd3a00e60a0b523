import Mathlib.Data.List.Forall2
import Stencil.Node.Written
import Stencil.Proofs.Fault.Family
import Stencil.Proofs.Value.Entries
import Stencil.Settings.Standard

set_option autoImplicit false

/-!
The grammar of written templates: the least set of values with every text, every list of members,
and maps of three forms. A member describes the template of the same structure, which is the one that
is built.
-/

namespace Stencil.Node

/-- A form of maps: the keys that have to be there, and what each allowed key may hold. -/
structure Form where
  required : List String
  allowed : List (String × (Value → Prop))

namespace Form

/-- The map has the required keys, and an entry that is not allowed is not among its entries. -/
structure Fits (form : Form) (entries : List (Value × Value)) : Prop where
  required : ∀ key ∈ form.required, ∃ value, (.text key, value) ∈ entries
  allowed : ∀ entry ∈ entries, ∃ rule ∈ form.allowed, entry.1 = .text rule.1 ∧ rule.2 entry.2

end Form

def IsText (value : Value) : Prop := ∃ s, value = .text s

/-- A text that is not empty. -/
def IsPath (value : Value) : Prop := ∃ path : KeyPath, value = .text path.text

def IsFlag (value : Value) : Prop := ∃ b, value = .bool b

def IsList (value : Value) : Prop := ∃ items, value = .list items

def literalForm : Form := ⟨["literal"], [("literal", IsText)]⟩

def placeholderForm : Form := ⟨["placeholder"], [("placeholder", IsPath), ("escape", IsFlag)]⟩

def blockForm : Form :=
  ⟨["section", "body"], [("section", IsPath), ("invert", IsFlag), ("body", IsList)]⟩

inductive InGrammar : Value → Prop where
  | text (s : String) : InGrammar (.text s)
  | list {items} : (∀ item ∈ items, InGrammar item) → InGrammar (.list items)
  | literal {entries} : literalForm.Fits entries → InGrammar (.map entries)
  | placeholder {entries} : placeholderForm.Fits entries → InGrammar (.map entries)
  | block {entries} :
      blockForm.Fits entries →
      (∀ items, (.text "body", .list items) ∈ entries → ∀ item ∈ items, InGrammar item) →
      InGrammar (.map entries)

/-- The flag under a key, which is off if the key is absent. -/
def writtenFlag (key : String) (entries : List (Value × Value)) : Value :=
  (Value.entry? key entries).getD (.bool false)

/-- The template of the same structure as a value. -/
inductive Describes : Value → Node → Prop where
  | text (s : String) : Describes (.text s) (.literal s)
  | list {items nodes} :
      List.Forall₂ Describes items nodes → Describes (.list items) (.sequence nodes)
  | literal {entries s} :
      literalForm.Fits entries →
      Value.entry? "literal" entries = some (.text s) →
      Describes (.map entries) (.literal s)
  | placeholder {entries} {path : KeyPath} :
      placeholderForm.Fits entries →
      Value.entry? "placeholder" entries = some (.text path.text) →
      Describes (.map entries) (.placeholder path (writtenFlag "escape" entries))
  | block {entries items body} {path : KeyPath} :
      blockForm.Fits entries →
      Value.entry? "section" entries = some (.text path.text) →
      Value.entry? "body" entries = some (.list items) →
      List.Forall₂ Describes items body →
      Describes (.map entries) (.block path (writtenFlag "invert" entries) body)

/-- A written form of the template: a member of the grammar that describes it. -/
structure IsFormOf (value : Value) (node : Node) : Prop where
  grammatical : InGrammar value
  describes : Describes value node

namespace Form.Fits

variable {form : Form} {entries : List (Value × Value)} {key : String} {value : Value}

theorem exists_rule (fits : form.Fits entries) (found : Value.entry? key entries = some value) :
    ∃ rule ∈ form.allowed, rule.1 = key ∧ rule.2 value := by
  obtain ⟨rule, isRule, own, kind⟩ := fits.allowed _ (Value.mem_of_found found)
  exact ⟨rule, isRule, (Value.text.inj own).symm, kind⟩

theorem absent (fits : form.Fits entries) (forbidden : ∀ rule ∈ form.allowed, rule.1 ≠ key) :
    Value.entry? key entries = none := by
  cases found : Value.entry? key entries with
  | none => rfl
  | some value =>
      obtain ⟨rule, isRule, own, _⟩ := fits.exists_rule found
      exact absurd own (forbidden rule isRule)

theorem exists_found (fits : form.Fits entries) (key : String) (required : key ∈ form.required) :
    ∃ value, Value.entry? key entries = some value := by
  obtain ⟨value, member⟩ := fits.required key required
  exact Value.exists_found_of_mem member

end Form.Fits

/-! The check finds the forms. -/

theorem isTextValue_iff {value : Value} : isTextValue value = true ↔ IsText value := by
  cases value <;> simp [isTextValue, IsText]

theorem isNonemptyText_iff {value : Value} : isNonemptyText value = true ↔ IsPath value := by
  cases value with
  | text s =>
      constructor
      · intro nonempty
        exact ⟨⟨s, by simpa [isNonemptyText] using nonempty⟩, rfl⟩
      · rintro ⟨path, same⟩
        cases same
        simpa [isNonemptyText] using path.nonempty
  | _ => simp [isNonemptyText, IsPath]

theorem isFlag_iff {value : Value} : isFlag value = true ↔ IsFlag value := by
  cases value <;> simp [isFlag, IsFlag]

theorem hasKey_iff {key : String} {entries : List (Value × Value)} :
    hasKey key entries = true ↔ ∃ value, (.text key, value) ∈ entries := by
  simp [hasKey, Value.isText_iff]

theorem isWrittenLiteral_iff {entries : List (Value × Value)} :
    isWrittenLiteral entries = true ↔ literalForm.Fits entries := by
  simp only [isWrittenLiteral, Bool.and_eq_true, hasKey_iff, List.all_eq_true, Value.isText_iff,
    isTextValue_iff]
  constructor
  · rintro ⟨there, each⟩
    exact ⟨by simpa [literalForm] using there, by simpa [literalForm] using each⟩
  · rintro ⟨required, allowed⟩
    exact ⟨by simpa [literalForm] using required, by simpa [literalForm] using allowed⟩

theorem isWrittenPlaceholder_iff {entries : List (Value × Value)} :
    isWrittenPlaceholder entries = true ↔ placeholderForm.Fits entries := by
  simp only [isWrittenPlaceholder, Bool.and_eq_true, Bool.or_eq_true, hasKey_iff,
    List.all_eq_true, Value.isText_iff, isNonemptyText_iff, isFlag_iff]
  constructor
  · rintro ⟨there, each⟩
    exact ⟨by simpa [placeholderForm] using there, by simpa [placeholderForm] using each⟩
  · rintro ⟨required, allowed⟩
    exact ⟨by simpa [placeholderForm] using required, by simpa [placeholderForm] using allowed⟩

theorem areWritten_iff {items : List Value} :
    areWritten items = true ↔ ∀ item ∈ items, isWritten item = true := by
  induction items with
  | nil => simp [areWritten]
  | cons item rest inductionHypothesis => simp [areWritten, inductionHypothesis]

theorem isWrittenBody_iff {value : Value} :
    isWrittenBody value = true ↔
      IsList value ∧ ∀ items, value = .list items → ∀ item ∈ items, isWritten item = true := by
  cases value with
  | list items => simp [isWrittenBody, IsList, areWritten_iff]
  | _ => simp [isWrittenBody, IsList]

theorem areBlockEntries_iff {entries : List (Value × Value)} :
    areBlockEntries entries = true ↔
      ∀ entry ∈ entries,
        (entry.1 = .text "section" ∧ IsPath entry.2) ∨ (entry.1 = .text "invert" ∧ IsFlag entry.2) ∨
          (entry.1 = .text "body" ∧ isWrittenBody entry.2 = true) := by
  induction entries with
  | nil => simp [areBlockEntries]
  | cons entry rest inductionHypothesis =>
      obtain ⟨key, value⟩ := entry
      simp [areBlockEntries, inductionHypothesis, Value.isText_iff, isNonemptyText_iff, isFlag_iff,
        or_assoc]

theorem isWrittenBlock_iff {entries : List (Value × Value)} :
    (hasKey "section" entries && hasKey "body" entries && areBlockEntries entries) = true ↔
      blockForm.Fits entries ∧
        ∀ items, (.text "body", .list items) ∈ entries → ∀ item ∈ items, isWritten item = true := by
  simp only [Bool.and_eq_true, hasKey_iff, areBlockEntries_iff, isWrittenBody_iff]
  constructor
  · rintro ⟨⟨sectioned, bodied⟩, each⟩
    refine ⟨⟨by simpa [blockForm] using ⟨sectioned, bodied⟩, fun entry member => ?_⟩,
      fun items here => ?_⟩
    · have ruled := each entry member
      simp only [blockForm, List.mem_cons, List.not_mem_nil, or_false, exists_eq_or_imp,
        exists_eq_left]
      tauto
    · have ruled := each _ here
      simp only [Value.text.injEq, String.reduceEq, false_and, true_and, false_or] at ruled
      exact ruled.2 items rfl
  · rintro ⟨⟨required, allowed⟩, bodies⟩
    refine ⟨by simpa [blockForm] using required, fun entry member => ?_⟩
    obtain ⟨key, value⟩ := entry
    have ruled := allowed _ member
    simp only [blockForm, List.mem_cons, List.not_mem_nil, or_false, exists_eq_or_imp,
      exists_eq_left] at ruled
    rcases ruled with path | flag | ⟨rfl, isList⟩
    · exact .inl path
    · exact .inr (.inl flag)
    · refine .inr (.inr ⟨rfl, isList, ?_⟩)
      rintro items rfl
      exact bodies items member

theorem isWritten_map_iff {entries : List (Value × Value)} :
    isWritten (.map entries) = true ↔
      literalForm.Fits entries ∨ placeholderForm.Fits entries ∨
        blockForm.Fits entries ∧
          ∀ items, (.text "body", .list items) ∈ entries →
            ∀ item ∈ items, isWritten item = true := by
  rw [isWritten, Bool.or_eq_true, Bool.or_eq_true, isWrittenLiteral_iff, isWrittenPlaceholder_iff,
    isWrittenBlock_iff, or_assoc]

theorem InGrammar.isWritten {value : Value} (grammatical : InGrammar value) :
    isWritten value = true := by
  induction grammatical with
  | text s => rfl
  | list _ inductionHypothesis => exact areWritten_iff.mpr inductionHypothesis
  | literal fits => exact isWritten_map_iff.mpr (.inl fits)
  | placeholder fits => exact isWritten_map_iff.mpr (.inr (.inl fits))
  | block fits _ inductionHypothesis =>
      exact isWritten_map_iff.mpr (.inr (.inr ⟨fits, inductionHypothesis⟩))

theorem inGrammar_of_isWritten {value : Value} (written : isWritten value = true) :
    InGrammar value := by
  cases shape : value with
  | text s => exact .text s
  | list items =>
      rw [shape] at written
      exact .list fun item member => inGrammar_of_isWritten (areWritten_iff.mp written item member)
  | map entries =>
      rw [shape] at written
      rcases isWritten_map_iff.mp written with literal | placeholder | ⟨block, bodies⟩
      · exact .literal literal
      · exact .placeholder placeholder
      · exact .block block fun items here item member =>
          inGrammar_of_isWritten (bodies items here item member)
  | _ => simp [shape, isWritten] at written
termination_by sizeOf value
decreasing_by
  · have inside := List.sizeOf_lt_of_mem member
    simp only [shape, Value.list.sizeOf_spec]
    omega
  · have inside := List.sizeOf_lt_of_mem member
    have entry := List.sizeOf_lt_of_mem here
    simp only [Prod.mk.sizeOf_spec, Value.list.sizeOf_spec] at entry
    simp only [shape, Value.map.sizeOf_spec]
    omega

/-! A member describes a template, which is the one that is built. -/

theorem exists_forall₂_describes {items : List Value}
    (each : ∀ item ∈ items, ∃ node, Describes item node) :
    ∃ nodes, List.Forall₂ Describes items nodes := by
  induction items with
  | nil => exact ⟨[], .nil⟩
  | cons item rest inductionHypothesis =>
      obtain ⟨⟨node, described⟩, others⟩ := List.forall_mem_cons.mp each
      obtain ⟨nodes, alike⟩ := inductionHypothesis others
      exact ⟨node :: nodes, .cons described alike⟩

theorem exists_describes {value : Value} (grammatical : InGrammar value) :
    ∃ node, Describes value node := by
  induction grammatical with
  | text s => exact ⟨_, .text s⟩
  | list _ inductionHypothesis =>
      obtain ⟨nodes, alike⟩ := exists_forall₂_describes inductionHypothesis
      exact ⟨_, .list alike⟩
  | literal fits =>
      obtain ⟨value, found⟩ := fits.exists_found "literal" (by simp [literalForm])
      obtain ⟨s, rfl⟩ : IsText value := by simpa [literalForm] using fits.exists_rule found
      exact ⟨_, .literal fits found⟩
  | placeholder fits =>
      obtain ⟨value, found⟩ := fits.exists_found "placeholder" (by simp [placeholderForm])
      obtain ⟨path, rfl⟩ : IsPath value := by simpa [placeholderForm] using fits.exists_rule found
      exact ⟨_, .placeholder fits found⟩
  | block fits _ inductionHypothesis =>
      obtain ⟨value, found⟩ := fits.exists_found "section" (by simp [blockForm])
      obtain ⟨path, rfl⟩ : IsPath value := by simpa [blockForm] using fits.exists_rule found
      obtain ⟨body, bodied⟩ := fits.exists_found "body" (by simp [blockForm])
      obtain ⟨items, rfl⟩ : IsList body := by simpa [blockForm] using fits.exists_rule bodied
      obtain ⟨nodes, alike⟩ :=
        exists_forall₂_describes (inductionHypothesis items (Value.mem_of_found bodied))
      exact ⟨_, .block fits found bodied alike⟩

theorem flagOf_eq_writtenFlag {form : Form} {entries : List (Value × Value)} {key : String}
    (fits : form.Fits entries)
    (flagged : ∀ rule ∈ form.allowed, rule.1 = key → ∀ value, rule.2 value → IsFlag value) :
    flagOf key entries = writtenFlag key entries := by
  cases found : Value.entry? key entries with
  | none => simp [flagOf, writtenFlag, found]
  | some value =>
      obtain ⟨rule, isRule, own, kind⟩ := fits.exists_rule found
      obtain ⟨b, rfl⟩ := flagged rule isRule own value kind
      simp [flagOf, writtenFlag, found, Value.truth]

theorem makePath_text (node : String) (path : KeyPath) :
    makePath node (.text path.text) = .ok path := by
  simp [makePath, path.nonempty]

theorem buildBody_of_found {entries : List (Value × Value)} {value : Value}
    (found : Value.entry? "body" entries = some value) : buildBody entries = buildList value := by
  induction entries with
  | nil => simp [ Value.entry?] at found
  | cons entry rest inductionHypothesis =>
      obtain ⟨key, own⟩ := entry
      rw [buildBody]
      cases here : key.isText "body" with
      | true =>
          have same : own = value := by simpa [ Value.entry?, here] using found
          rw [if_pos rfl, same]
      | false =>
          have later : Value.entry? "body" rest = some value := by
            simpa [ Value.entry?, here] using found
          rw [if_neg Bool.false_ne_true, inductionHypothesis later]

theorem buildAll_of_describes {items : List Value} {nodes : List Node}
    (each : ∀ item ∈ items, ∀ node, Describes item node → build item = .ok node)
    (alike : List.Forall₂ Describes items nodes) : buildAll items = .ok nodes := by
  induction alike with
  | nil => rfl
  | cons described _ inductionHypothesis =>
      obtain ⟨first, others⟩ := List.forall_mem_cons.mp each
      rw [buildAll, first _ described, inductionHypothesis others]
      rfl

section Forms

variable {entries : List (Value × Value)}

theorem build_of_literalForm {s : String}
    (found : Value.entry? "literal" entries = some (.text s)) :
    build (.map entries) = .ok (.literal s) := by
  simp [build, ofEntries, found, makeLiteral]

theorem build_of_placeholderForm {path : KeyPath} (fits : placeholderForm.Fits entries)
    (found : Value.entry? "placeholder" entries = some (.text path.text)) :
    build (.map entries) = .ok (.placeholder path (writtenFlag "escape" entries)) := by
  have noLiteral : Value.entry? "literal" entries = none :=
    fits.absent (by simp [placeholderForm])
  have flag : flagOf "escape" entries = writtenFlag "escape" entries :=
    flagOf_eq_writtenFlag fits (by simp [placeholderForm])
  simp only [build, ofEntries, noLiteral, found, makePlaceholder, makePath_text, flag]
  rfl

theorem build_of_blockForm {path : KeyPath} {items : List Value} {body : List Node}
    (fits : blockForm.Fits entries)
    (found : Value.entry? "section" entries = some (.text path.text))
    (bodied : Value.entry? "body" entries = some (.list items)) (built : buildAll items = .ok body) :
    build (.map entries) = .ok (.block path (writtenFlag "invert" entries) body) := by
  have noLiteral : Value.entry? "literal" entries = none := fits.absent (by simp [blockForm])
  have noPlaceholder : Value.entry? "placeholder" entries = none :=
    fits.absent (by simp [blockForm])
  have flag : flagOf "invert" entries = writtenFlag "invert" entries :=
    flagOf_eq_writtenFlag fits (by simp [blockForm])
  simp only [build, ofEntries, noLiteral, noPlaceholder, found, buildBody_of_found bodied,
    buildList, built, makeBlock, makePath_text, flag]
  rfl

end Forms

theorem build_of_describes {value : Value} (grammatical : InGrammar value) :
    ∀ node, Describes value node → build value = .ok node := by
  induction grammatical with
  | text s =>
      rintro _ ⟨⟩
      rfl
  | list _ inductionHypothesis =>
      rintro _ (_ | alike)
      rw [build, buildAll_of_describes inductionHypothesis alike]
      rfl
  | literal fits | placeholder fits =>
      intro node described
      cases described with
      | literal _ found => exact build_of_literalForm found
      | placeholder fits' found => exact build_of_placeholderForm fits' found
      | block _ _ bodied _ =>
          have bodiless : Value.entry? "body" _ = none :=
            fits.absent (by simp [literalForm, placeholderForm])
          rw [bodiless] at bodied
          cases bodied
  | block fits _ inductionHypothesis =>
      intro node described
      cases described with
      | literal _ found => exact build_of_literalForm found
      | placeholder fits' found => exact build_of_placeholderForm fits' found
      | block fits' found bodied alike =>
          have each := inductionHypothesis _ (Value.mem_of_found bodied)
          exact build_of_blockForm fits' found bodied (buildAll_of_describes each alike)

end Stencil.Node
